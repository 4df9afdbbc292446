import DatabusSim.Static.VehicleMarkers
import Mathlib.Data.List.Sort
import Mathlib.Data.List.TakeWhile

/-!
# The cards of the fleet tab

`static/tabs/fleet.js` keeps one card for each vehicle. A card is made once, out of markup; from
then on every change of the store patches it in place, next to what the user does to it. After any
such history each vehicle of the latest fleet has exactly one card, which shows what a new one
would (`cards_current`).
-/

namespace DatabusSim.FleetTab

open Transition WsClient MapPage

/-! ## A card -/

inductive Knob where
  | speed
  | occ
  deriving DecidableEq

/-- What the tab leaves to the browser. -/
structure Browser where
  /-- The text of a value that is no string. -/
  display : Js → String
  /-- `q.toFixed(digits)`. -/
  toFixed : Nat → ℚ → String
  /-- The text that a piece of markup stands for. -/
  markup : String → String
  /-- What the range input of a card makes of a value. -/
  ranged : Knob → String → String

/-- A range input and the text next to it. -/
structure Slider where
  value : String
  label : String
  deriving DecidableEq, Inhabited

structure Card where
  vehicleId : String
  heading : String
  route : String
  chip : String
  state : String
  runTitle : String
  run : String
  speed : String
  bearing : String
  status : String
  occ : String
  transmit : Bool
  moving : Bool
  speedSlider : Slider
  occSlider : Slider
  deriving DecidableEq, Inhabited

def fleetOrder : List String := ["unit-01", "unit-02", "unit-03", "unit-04", "unit-05", "unit-06"]

def stateChips : List (String × String) :=
  [("Requested", "chip--requested"), ("Validated", "chip--requested"),
    ("Initialized", "chip--requested"), ("Confirmed", "chip--confirmed"),
    ("Tracking", "chip--tracking"), ("In Progress", "chip--inprogress"),
    ("No Signal", "chip--nosignal"), ("Completed", "chip--terminal"),
    ("Cancelled", "chip--terminal"), ("Interrupted", "chip--terminal"),
    ("Short Turned", "chip--terminal")]

section Render

variable (b : Browser)

def chipClass (v : Js) : String :=
  "state-chip " ++
    (Dict.lookupEntry (templateText b.display (v.prop "lifecycle_state")) stateChips).getD
      "chip--idle"

def stateLabel (v : Js) : String :=
  templateText b.display ((v.prop "lifecycle_state").orElse (.str "idle"))

def runTitle (v : Js) : String :=
  templateText b.display ((v.prop "bound_run_id").orElse (.str "no run"))

/-- The start of the run's id; only texts and arrays have a `slice`. The eight are characters here
and UTF-16 units in the page, which differ beyond `U+FFFF`. -/
def runText (v : Js) : Option String :=
  let runId := v.prop "bound_run_id"
  if !runId.truthy then some "—"
  else
    match runId with
    | .str s => some (String.ofList (s.toList.take 8) ++ "...")
    | .arr xs => some (b.display (.arr (xs.take 8)) ++ "...")
    | _ => none

/-- A number with its unit; nothing else has a `toFixed`. -/
def fixedText (digits : Nat) (unit : String) (value : Js) : Option String :=
  if value.isNullish then some "—"
  else
    match value with
    | .num q => some (b.toFixed digits q ++ unit)
    | _ => none

def speedText (position : Js) : Option String :=
  fixedText b 1 " m/s" ((position.orElse (.obj [])).prop "speed")

def bearingText (position : Js) : Option String :=
  fixedText b 0 "°" ((position.orElse (.obj [])).prop "bearing")

def statusText (progression : Js) : String :=
  templateText b.display
    (((progression.orElse (.obj [])).prop "current_status").orElse (.str "—"))

def occText (occupancy : Js) : String :=
  let percentage := (occupancy.orElse (.obj [])).prop "occupancy_percentage"
  if percentage.isNullish then "—" else templateText b.display percentage ++ "%"

/-- The text of an override that is set. -/
def overrideText (key : String) (v : Js) : Option String :=
  let value := v.prop key
  if value.isNullish then none else some (templateText b.display value)

/-- The slider of a new card. -/
def newSlider (knob : Knob) (default : String) (override : Option String) : Slider :=
  let text := b.markup (override.getD default)
  ⟨b.ranged knob text, text⟩

/-- The slider of a card that is patched. -/
def patchSlider (knob : Knob) (override : Option String) (slider : Slider) : Slider :=
  match override with
  | some text => ⟨b.ranged knob text, text⟩
  | none => slider

/-- `createCard`, `none` where `cardHTML` throws; `telem` are the payloads of the vehicle by leaf. -/
def createCard (vehicleId : String) (v : Js) (telem : String → Js) : Option Card := do
  let run ← runText b v
  let speed ← speedText b (telem "position")
  let bearing ← bearingText b (telem "position")
  pure {
    vehicleId := vehicleId
    heading := b.markup vehicleId
    route := b.markup (templateText b.display (v.prop "route_id"))
    chip := chipClass b v
    state := b.markup (stateLabel b v)
    runTitle := b.markup (runTitle b v)
    run := b.markup run
    speed := b.markup speed
    bearing := b.markup bearing
    status := b.markup (statusText b (telem "progression"))
    occ := b.markup (occText b (telem "occupancy"))
    transmit := (v.prop "transmitting").truthy
    moving := (v.prop "moving").truthy
    speedSlider := newSlider b .speed "7.5" (overrideText b "speed_override" v)
    occSlider := newSlider b .occ "50" (overrideText b "occupancy_override" v) }

/-- `patchCard`, with `false` where it throws and leaves the rest of the card as it was. -/
def patchCard (v : Js) (telem : String → Js) (c : Card) : Card × Bool :=
  let c := { c with chip := chipClass b v, state := stateLabel b v, runTitle := runTitle b v }
  match runText b v with
  | none => (c, false)
  | some run =>
      let c := { c with run := run }
      match speedText b (telem "position") with
      | none => (c, false)
      | some speed =>
          let c := { c with speed := speed }
          match bearingText b (telem "position") with
          | none => (c, false)
          | some bearing =>
              ({ c with
                  bearing := bearing
                  status := statusText b (telem "progression")
                  occ := occText b (telem "occupancy")
                  transmit := (v.prop "transmitting").truthy
                  moving := (v.prop "moving").truthy
                  speedSlider :=
                    patchSlider b .speed (overrideText b "speed_override" v) c.speedSlider
                  occSlider :=
                    patchSlider b .occ (overrideText b "occupancy_override" v) c.occSlider },
                true)

end Render

/-! ## The tab -/

/-- The panel of the tab. The cards in it are found by the number of their element. -/
structure Tab where
  /-- The panel holds the grid. -/
  mounted : Bool := false
  /-- The grid holds the text for an empty fleet. -/
  note : Bool := false
  grid : Dict Nat Card := Dict.empty
  cardMap : Dict String Nat := Dict.empty
  /-- How many elements there have been. -/
  created : Nat := 0
  /-- How many subscriptions to the store call `updateCards`. -/
  subscribed : Nat := 0
  /-- `_unsub` is set. -/
  unsub : Bool := false

section Update

variable (b : Browser)

def fleetIndex (v : Js) : Int :=
  match vehicleId? v with
  | some vehicleId =>
      if vehicleId ∈ fleetOrder then (fleetOrder.idxOf vehicleId : Int) else -1
  | none => -1

/-- `sortedVehicles`: the comparator throws where an element has no properties. -/
def sortedVehicles (vehicles : Js) : Option (List Js) :=
  if !vehicles.truthy then some []
  else
    match vehicles with
    | .arr vs =>
        if 2 ≤ vs.length ∧ vs.any Js.isNullish then none
        else some (vs.insertionSort fun v w => fleetIndex v ≤ fleetIndex w)
    | .str s => some (s.toList.map fun c => .str (String.ofList [c]))
    | _ => none

/-- The payloads of a vehicle by leaf. -/
def leafOf (s : Store) (vehicleId leaf : String) : Js :=
  (s.telemetryOf vehicleId leaf).getD .undefined

/-- A loop over vehicles, which ends where its body throws. -/
def forVehicles (body : String → Js → Tab → Tab × Bool) : List Js → Tab → Tab × Bool
  | [], t => (t, true)
  | v :: rest, t =>
      if v.isNullish then (t, false)
      else
        match vehicleId? v with
        | none => forVehicles body rest t
        | some vehicleId =>
            match body vehicleId v t with
            | (t, true) => forVehicles body rest t
            | (t, false) => (t, false)

/-- A new card goes to the end of the grid. -/
def addCard (s : Store) (vehicleId : String) (v : Js) (t : Tab) : Tab × Bool :=
  match createCard b vehicleId v (leafOf s vehicleId) with
  | none => (t, false)
  | some card =>
      ({ t with
          grid := t.grid.set t.created card
          cardMap := t.cardMap.set vehicleId t.created
          created := t.created + 1 }, true)

/-- `renderGrid`. -/
def renderGrid (s : Store) (t : Tab) : Tab × Bool :=
  let t := { t with cardMap := Dict.empty }
  match sortedVehicles (s.fleet.prop "vehicles") with
  | none => (t, false)
  | some [] => ({ t with note := true, grid := Dict.empty }, true)
  | some (v :: rest) =>
      forVehicles (addCard b s) (v :: rest) { t with note := false, grid := Dict.empty }

/-- The card of a vehicle that is gone is removed. -/
def dropStale (incoming : List String) (t : Tab) (e : String × Nat) : Tab :=
  if e.1 ∈ incoming then t
  else { t with grid := t.grid.erase e.2, cardMap := t.cardMap.erase e.1 }

def removeStale (incoming : List String) (t : Tab) : Tab :=
  t.cardMap.entries.foldl (dropStale incoming) t

/-- The card of a vehicle is patched, or added. An element outside the grid is not seen. -/
def updateCard (s : Store) (vehicleId : String) (v : Js) (t : Tab) : Tab × Bool :=
  match t.cardMap.get? vehicleId with
  | none => addCard b s vehicleId v t
  | some el =>
      match t.grid.get? el with
      | none => (t, (patchCard b v (leafOf s vehicleId) default).2)
      | some card =>
          let patched := patchCard b v (leafOf s vehicleId) card
          ({ t with grid := t.grid.set el patched.1 }, patched.2)

/-- `updateCards`. -/
def updateCards (s : Store) (t : Tab) : Tab :=
  if !t.mounted then t
  else
    match sortedVehicles (s.fleet.prop "vehicles") with
    | none => t
    | some [] => { t with note := true, grid := Dict.empty, cardMap := Dict.empty }
    | some (v :: rest) =>
        if t.cardMap.entries.isEmpty then (renderGrid b s t).1
        -- `v.vehicle_id` of no object
        else if (v :: rest).any Js.isNullish then t
        else
          (forVehicles (updateCard b s) (v :: rest) (removeStale (idsOf (v :: rest)) t)).1

/-- `mount`. A panel that is mounted already gets another subscription. -/
def mount (s : Store) (t : Tab) : Tab :=
  let rendered := renderGrid b s
    { t with mounted := true, note := false, grid := Dict.empty, cardMap := Dict.empty }
  if rendered.2 then { rendered.1 with subscribed := rendered.1.subscribed + 1, unsub := true }
  else rendered.1

/-- `unmount`. -/
def unmount (t : Tab) : Tab :=
  { t with
    mounted := false
    note := false
    grid := Dict.empty
    cardMap := Dict.empty
    subscribed := if t.unsub then t.subscribed - 1 else t.subscribed
    unsub := false }

end Update

/-! ## The page -/

/-- The store and the tab. -/
structure Page where
  store : Store := {}
  tab : Tab := {}

/-- What the user does to the inputs of a card. -/
inductive Touch where
  | transmit (on : Bool)
  | moving (on : Bool)
  /-- A slider is moved to a value. -/
  | slide (knob : Knob) (value : String)

def Touch.apply (c : Card) : Touch → Card
  | .transmit on => { c with transmit := on }
  | .moving on => { c with moving := on }
  | .slide .speed value => { c with speedSlider := ⟨value, value⟩ }
  | .slide .occ value => { c with occSlider := ⟨value, value⟩ }

inductive Event where
  /-- A group message is relayed to the page. -/
  | message (ev : GroupEvent)
  /-- The tab is chosen, perhaps once more. -/
  | mount
  | unmount
  | touch (el : Nat) (touch : Touch)

section Step

variable (b : Browser) (text : Key → String)

/-- A callback of the store has something to notify of. -/
def notifies (topic : String) (payload : Js) : Handler → Bool
  | .fleet => payload.isObject
  | .navsat => payload.isArray
  | .schedule => payload.isObject
  | .telemetry => 4 ≤ (levels topic).length

/-- What a callback does to the store and, through its subscriptions, to the tab. -/
def handle (p : Page) (topic : String) (payload : Js) (h : Handler) : Page :=
  let store := p.store.handle topic payload h
  { store := store
    tab := if notifies topic payload h then (updateCards b store)^[p.tab.subscribed] p.tab
      else p.tab }

def step : System Page Event := fun p ev =>
  match ev with
  | .message ev => feedStep text b.display (handle b) p ev
  | .mount => some { p with tab := mount b p.store p.tab }
  | .unmount => some { p with tab := unmount p.tab }
  | .touch el touch =>
      (p.tab.grid.get? el).map fun card =>
        { p with tab := { p.tab with grid := p.tab.grid.set el (touch.apply card) } }

end Step

/-! ## What a card shows -/

/-- A text that markup stands for itself. -/
def plainText (s : String) : Bool :=
  s.toList.all fun c => c ≠ '<' && c ≠ '&' && c ≠ '"' && c ≠ '\r' && c ≠ Char.ofNat 0

section Shows

variable (b : Browser)

/-- The parser leaves plain texts as they are. -/
def KeepsPlain : Prop := ∀ s, plainText s = true → b.markup s = s

/-- The card shows the state of the vehicle. -/
structure Shows (v : Js) (telem : String → Js) (c : Card) : Prop where
  chip : c.chip = chipClass b v
  state : c.state = stateLabel b v
  runTitle : c.runTitle = runTitle b v
  run : runText b v = some c.run
  speed : speedText b (telem "position") = some c.speed
  bearing : bearingText b (telem "position") = some c.bearing
  status : c.status = statusText b (telem "progression")
  occ : c.occ = occText b (telem "occupancy")

/-- The inputs are where the vehicle is; without an override a slider is left alone. -/
structure Fresh (v : Js) (c : Card) : Prop where
  transmit : c.transmit = (v.prop "transmitting").truthy
  moving : c.moving = (v.prop "moving").truthy
  speedSlider (text) : overrideText b "speed_override" v = some text →
    c.speedSlider = ⟨b.ranged .speed text, text⟩
  occSlider (text) : overrideText b "occupancy_override" v = some text →
    c.occSlider = ⟨b.ranged .occ text, text⟩

/-- No card throws for the vehicle, and its texts are plain. -/
structure PlainVehicle (v : Js) : Prop where
  vehicleId : ∃ vehicleId, vehicleId? v = some vehicleId ∧ plainText vehicleId = true
  state : plainText (stateLabel b v) = true
  runTitle : plainText (runTitle b v) = true
  run : ∃ run, runText b v = some run ∧ plainText run = true
  speed (text) : overrideText b "speed_override" v = some text → plainText text = true
  occ (text) : overrideText b "occupancy_override" v = some text → plainText text = true

/-- No card throws for the payloads, and their texts are plain. -/
structure PlainTelemetry (telem : String → Js) : Prop where
  speed : ∃ speed, speedText b (telem "position") = some speed ∧ plainText speed = true
  bearing : ∃ bearing, bearingText b (telem "position") = some bearing ∧ plainText bearing = true
  status : plainText (statusText b (telem "progression")) = true
  occ : plainText (occText b (telem "occupancy")) = true

variable {b}

theorem newSlider_override (h : KeepsPlain b) (knob : Knob) (default : String) {text : String}
    (htext : plainText text = true) :
    newSlider b knob default (some text) = ⟨b.ranged knob text, text⟩ := by
  simp [newSlider, h text htext]

/-- A new card of a plain vehicle shows it. -/
theorem createCard_plain (h : KeepsPlain b) {v : Js} {telem : String → Js} {vehicleId : String}
    (hid : plainText vehicleId = true) (hv : PlainVehicle b v) (ht : PlainTelemetry b telem) :
    ∃ c, createCard b vehicleId v telem = some c ∧ c.vehicleId = vehicleId ∧
      c.heading = vehicleId ∧ Shows b v telem c ∧ Fresh b v c := by
  obtain ⟨run, hrun, hrunPlain⟩ := hv.run
  obtain ⟨speed, hspeed, hspeedPlain⟩ := ht.speed
  obtain ⟨bearing, hbearing, hbearingPlain⟩ := ht.bearing
  have hcreate := createCard.eq_1 b vehicleId v telem
  rw [hrun, hspeed, hbearing] at hcreate
  refine ⟨_, hcreate, rfl, h vehicleId hid, ?_, ?_⟩
  · exact {
      chip := rfl
      state := h _ hv.state
      runTitle := h _ hv.runTitle
      run := hrun.trans (congrArg some (h run hrunPlain).symm)
      speed := hspeed.trans (congrArg some (h speed hspeedPlain).symm)
      bearing := hbearing.trans (congrArg some (h bearing hbearingPlain).symm)
      status := h _ ht.status
      occ := h _ ht.occ }
  · refine ⟨rfl, rfl, fun text htext => ?_, fun text htext => ?_⟩
    · show newSlider b .speed "7.5" (overrideText b "speed_override" v) = _
      rw [htext, newSlider_override h .speed "7.5" (hv.speed text htext)]
    · show newSlider b .occ "50" (overrideText b "occupancy_override" v) = _
      rw [htext, newSlider_override h .occ "50" (hv.occ text htext)]

/-- A card that is patched shows the vehicle as well. -/
theorem patchCard_plain {v : Js} {telem : String → Js} (hv : PlainVehicle b v)
    (ht : PlainTelemetry b telem) (c : Card) :
    ∃ c', patchCard b v telem c = (c', true) ∧ c'.vehicleId = c.vehicleId ∧
      c'.heading = c.heading ∧ Shows b v telem c' ∧ Fresh b v c' := by
  obtain ⟨run, hrun, -⟩ := hv.run
  obtain ⟨speed, hspeed, -⟩ := ht.speed
  obtain ⟨bearing, hbearing, -⟩ := ht.bearing
  have hpatch := patchCard.eq_1 b v telem c
  simp only [hrun, hspeed, hbearing] at hpatch
  refine ⟨_, hpatch, rfl, rfl, ⟨rfl, rfl, rfl, hrun, hspeed, hbearing, rfl, rfl⟩, rfl, rfl, ?_, ?_⟩
  · intro text htext
    show patchSlider b .speed (overrideText b "speed_override" v) c.speedSlider = _
    rw [htext]
    rfl
  · intro text htext
    show patchSlider b .occ (overrideText b "occupancy_override" v) c.occSlider = _
    rw [htext]
    rfl

/-- The user moves inputs only. -/
theorem Shows.touch {v : Js} {telem : String → Js} {c : Card} (h : Shows b v telem c)
    (touch : Touch) : Shows b v telem (touch.apply c) := by
  cases touch with
  | transmit on => exact ⟨h.chip, h.state, h.runTitle, h.run, h.speed, h.bearing, h.status, h.occ⟩
  | moving on => exact ⟨h.chip, h.state, h.runTitle, h.run, h.speed, h.bearing, h.status, h.occ⟩
  | slide knob value =>
    cases knob <;>
      exact ⟨h.chip, h.state, h.runTitle, h.run, h.speed, h.bearing, h.status, h.occ⟩

theorem Touch.apply_ids (touch : Touch) (c : Card) :
    (touch.apply c).vehicleId = c.vehicleId ∧ (touch.apply c).heading = c.heading := by
  cases touch with
  | transmit on => exact ⟨rfl, rfl⟩
  | moving on => exact ⟨rfl, rfl⟩
  | slide knob value => cases knob <;> exact ⟨rfl, rfl⟩

end Shows

/-! ## Elements and cards -/

/-- The map and the grid are of the same cards. -/
structure Coherent (t : Tab) : Prop where
  mapped (vehicleId el) : t.cardMap.get? vehicleId = some el →
    ∃ c, t.grid.get? el = some c ∧ c.vehicleId = vehicleId
  shown (el c) : t.grid.get? el = some c →
    t.cardMap.get? c.vehicleId = some el ∧ c.heading = c.vehicleId ∧ el < t.created
  note (vehicleId) : t.note = true → t.cardMap.get? vehicleId = none

/-- The card of a vehicle. -/
def cardOf (t : Tab) (vehicleId : String) : Option Card :=
  (t.cardMap.get? vehicleId).bind t.grid.get?

/-- What the loops leave alone. -/
structure SamePanel (t t' : Tab) : Prop where
  mounted : t'.mounted = t.mounted
  note : t'.note = t.note
  subscribed : t'.subscribed = t.subscribed

theorem SamePanel.refl (t : Tab) : SamePanel t t := ⟨rfl, rfl, rfl⟩

theorem SamePanel.trans {t t' t'' : Tab} (h : SamePanel t t') (h' : SamePanel t' t'') :
    SamePanel t t'' where
  mounted := h'.mounted.trans h.mounted
  note := h'.note.trans h.note
  subscribed := h'.subscribed.trans h.subscribed

theorem cardOf_eq_some {t : Tab} {vehicleId : String} {c : Card} :
    cardOf t vehicleId = some c ↔
      ∃ el, t.cardMap.get? vehicleId = some el ∧ t.grid.get? el = some c :=
  Option.bind_eq_some_iff

namespace Coherent

variable {t : Tab}

theorem cleared (note : Bool) :
    Coherent { t with note := note, grid := Dict.empty, cardMap := Dict.empty } where
  mapped vehicleId el h := by cases h
  shown el c h := by cases h
  note vehicleId h := rfl

theorem cardOf_isSome (h : Coherent t) {vehicleId : String} {el : Nat}
    (hel : t.cardMap.get? vehicleId = some el) : (cardOf t vehicleId).isSome := by
  obtain ⟨c, hc, -⟩ := h.mapped vehicleId el hel
  rw [cardOf_eq_some.mpr ⟨el, hel, hc⟩]
  rfl

/-- Two vehicles have different elements. -/
theorem injective (h : Coherent t) {i j : String} {el : Nat} (hi : t.cardMap.get? i = some el)
    (hj : t.cardMap.get? j = some el) : i = j := by
  obtain ⟨c, hc, rfl⟩ := h.mapped i el hi
  obtain ⟨c', hc', rfl⟩ := h.mapped j el hj
  rw [hc] at hc'
  cases hc'
  rfl

/-- The card of an element is replaced by another of the same vehicle. -/
theorem patch (h : Coherent t) {el : Nat} {c c' : Card} (hc : t.grid.get? el = some c)
    (hid : c'.vehicleId = c.vehicleId) (hheading : c'.heading = c.heading) :
    Coherent { t with grid := t.grid.set el c' } := by
  obtain ⟨hmap, hown, hlt⟩ := h.shown el c hc
  constructor
  · intro vehicleId el' hel
    obtain ⟨d, hd, hdid⟩ := h.mapped vehicleId el' hel
    by_cases hsame : el' = el
    · subst hsame
      rw [hc] at hd
      cases hd
      exact ⟨c', Dict.get?_set_self _ _ _, hid.trans hdid⟩
    · exact ⟨d, (Dict.get?_set_ne _ _ hsame).trans hd, hdid⟩
  · intro el' d hd
    rw [Dict.get?_set] at hd
    split at hd
    · rename_i hsame
      cases hd
      rw [hsame, hid, hheading]
      exact ⟨hmap, hown, hlt⟩
    · exact h.shown el' d hd
  · exact h.note

theorem cardOf_patch (h : Coherent t) {vehicleId : String} {el : Nat} (c' : Card)
    (hel : t.cardMap.get? vehicleId = some el) (j : String) :
    cardOf { t with grid := t.grid.set el c' } j =
      if j = vehicleId then some c' else cardOf t j := by
  unfold cardOf
  by_cases hj : j = vehicleId
  · subst hj
    rw [if_pos rfl]
    show (t.cardMap.get? j).bind _ = _
    rw [hel, Option.bind_some, Dict.get?_set_self]
  · rw [if_neg hj]
    show (t.cardMap.get? j).bind _ = _
    cases hget : t.cardMap.get? j with
    | none => rfl
    | some el' =>
      have hne : el' ≠ el := by
        intro hsame
        subst hsame
        exact hj (h.injective hget hel)
      exact Dict.get?_set_ne _ _ hne

/-- A card is put at the end of the grid. -/
theorem append (h : Coherent t) (hnote : t.note = false) {vehicleId : String} {c : Card}
    (hnew : t.cardMap.get? vehicleId = none) (hid : c.vehicleId = vehicleId)
    (hheading : c.heading = vehicleId) :
    Coherent { t with
      grid := t.grid.set t.created c
      cardMap := t.cardMap.set vehicleId t.created
      created := t.created + 1 } := by
  constructor
  · intro j el hel
    rw [Dict.get?_set] at hel
    split at hel
    · rename_i hj
      cases hel
      exact ⟨c, Dict.get?_set_self _ _ _, hid.trans hj.symm⟩
    · obtain ⟨d, hd, hdid⟩ := h.mapped j el hel
      have hlt := (h.shown el d hd).2.2
      exact ⟨d, (Dict.get?_set_ne _ _ (by omega)).trans hd, hdid⟩
  · intro el d hd
    rw [Dict.get?_set] at hd
    split at hd
    · rename_i hel
      cases hd
      rw [hel, hid, hheading]
      exact ⟨Dict.get?_set_self _ _ _, rfl, Nat.lt_succ_self _⟩
    · obtain ⟨hmap, hown, hlt⟩ := h.shown el d hd
      have hne : d.vehicleId ≠ vehicleId := by
        intro hsame
        rw [hsame, hnew] at hmap
        cases hmap
      exact ⟨(Dict.get?_set_ne _ _ hne).trans hmap, hown, Nat.lt_succ_of_lt hlt⟩
  · intro j hj
    rw [hnote] at hj
    cases hj

theorem cardOf_append (h : Coherent t) (vehicleId : String) (c : Card) (j : String) :
    cardOf { t with
      grid := t.grid.set t.created c
      cardMap := t.cardMap.set vehicleId t.created
      created := t.created + 1 } j = if j = vehicleId then some c else cardOf t j := by
  unfold cardOf
  show ((t.cardMap.set vehicleId t.created).get? j).bind (t.grid.set t.created c).get? = _
  rw [Dict.get?_set]
  by_cases hj : j = vehicleId
  · rw [if_pos hj, if_pos hj, Option.bind_some, Dict.get?_set_self]
  · rw [if_neg hj, if_neg hj]
    cases hget : t.cardMap.get? j with
    | none => rfl
    | some el =>
      obtain ⟨d, hd, -⟩ := h.mapped j el hget
      have hlt := (h.shown el d hd).2.2
      exact Dict.get?_set_ne _ _ (by omega)

/-- A card is taken out of the grid. -/
theorem remove (h : Coherent t) {vehicleId : String} {el : Nat}
    (hel : t.cardMap.get? vehicleId = some el) :
    Coherent { t with grid := t.grid.erase el, cardMap := t.cardMap.erase vehicleId } := by
  constructor
  · intro j el' hj
    rw [Dict.get?_erase] at hj
    split at hj
    · cases hj
    · rename_i hne
      obtain ⟨d, hd, hdid⟩ := h.mapped j el' hj
      have hel' : el' ≠ el := by
        intro hsame
        subst hsame
        exact hne (h.injective hj hel)
      exact ⟨d, (Dict.get?_erase _ _ _).trans ((if_neg hel').trans hd), hdid⟩
  · intro el' d hd
    rw [Dict.get?_erase] at hd
    split at hd
    · cases hd
    · rename_i hne
      obtain ⟨hmap, hown, hlt⟩ := h.shown el' d hd
      have hother : d.vehicleId ≠ vehicleId := by
        intro hsame
        rw [hsame, hel] at hmap
        exact hne (Option.some.inj hmap).symm
      exact ⟨(Dict.get?_erase _ _ _).trans ((if_neg hother).trans hmap), hown, hlt⟩
  · intro j hj
    rw [Dict.get?_erase, h.note j hj]
    split <;> rfl

theorem cardOf_remove (h : Coherent t) {vehicleId : String} {el : Nat}
    (hel : t.cardMap.get? vehicleId = some el) (j : String) :
    cardOf { t with grid := t.grid.erase el, cardMap := t.cardMap.erase vehicleId } j =
      if j = vehicleId then none else cardOf t j := by
  unfold cardOf
  show ((t.cardMap.erase vehicleId).get? j).bind (t.grid.erase el).get? = _
  rw [Dict.get?_erase]
  by_cases hj : j = vehicleId
  · rw [if_pos hj, if_pos hj, Option.bind_none]
  · rw [if_neg hj, if_neg hj]
    cases hget : t.cardMap.get? j with
    | none => rfl
    | some el' =>
      have hne : el' ≠ el := by
        intro hsame
        subst hsame
        exact hj (h.injective hget hel)
      exact (Dict.get?_erase _ _ _).trans (if_neg hne)

end Coherent

/-! ## The loops -/

section Loops

variable {b : Browser} {s : Store}

/-- A round of a loop has left a card that shows its vehicle. -/
structure Round (b : Browser) (s : Store) (vehicleId : String) (v : Js) (t t' : Tab) : Prop where
  coherent : Coherent t'
  panel : SamePanel t t'
  own : ∃ c, cardOf t' vehicleId = some c ∧ Shows b v (leafOf s vehicleId) c ∧ Fresh b v c
  other (j) : j ≠ vehicleId → cardOf t' j = cardOf t j

theorem addCard_round (h : KeepsPlain b) {v : Js} {vehicleId : String}
    (hid : vehicleId? v = some vehicleId) (hv : PlainVehicle b v)
    (ht : PlainTelemetry b (leafOf s vehicleId)) {t : Tab} (hco : Coherent t)
    (hnote : t.note = false) (hnew : t.cardMap.get? vehicleId = none) :
    ∃ t', addCard b s vehicleId v t = (t', true) ∧ Round b s vehicleId v t t' := by
  obtain ⟨j, hj, hplain⟩ := hv.vehicleId
  rw [hid] at hj
  cases hj
  obtain ⟨c, hc, hcid, hheading, hshows, hfresh⟩ := createCard_plain h hplain hv ht
  refine ⟨_, by rw [addCard, hc], ?_⟩
  constructor
  · exact hco.append hnote hnew hcid hheading
  · exact ⟨rfl, rfl, rfl⟩
  · exact ⟨c, (hco.cardOf_append vehicleId c vehicleId).trans (if_pos rfl), hshows, hfresh⟩
  · intro j hj
    exact (hco.cardOf_append vehicleId c j).trans (if_neg hj)

theorem updateCard_round (h : KeepsPlain b) {v : Js} {vehicleId : String}
    (hid : vehicleId? v = some vehicleId) (hv : PlainVehicle b v)
    (ht : PlainTelemetry b (leafOf s vehicleId)) {t : Tab} (hco : Coherent t)
    (hnote : t.note = false) :
    ∃ t', updateCard b s vehicleId v t = (t', true) ∧ Round b s vehicleId v t t' := by
  unfold updateCard
  cases hel : t.cardMap.get? vehicleId with
  | none => exact addCard_round h hid hv ht hco hnote hel
  | some el =>
    obtain ⟨c, hc, -⟩ := hco.mapped vehicleId el hel
    obtain ⟨c', hpatch, hcid, hheading, hshows, hfresh⟩ := patchCard_plain hv ht c
    simp only [hc, hpatch]
    refine ⟨_, rfl, ?_⟩
    constructor
    · exact hco.patch hc hcid hheading
    · exact ⟨rfl, rfl, rfl⟩
    · exact ⟨c', (hco.cardOf_patch c' hel vehicleId).trans (if_pos rfl), hshows, hfresh⟩
    · intro j hj
      exact (hco.cardOf_patch c' hel j).trans (if_neg hj)

theorem not_nullish {v : Js} {vehicleId : String} (h : vehicleId? v = some vehicleId) :
    v.isNullish = false := by
  cases v with
  | undefined => cases h
  | null => cases h
  | bool b => rfl
  | num q => rfl
  | str s => rfl
  | arr xs => rfl
  | obj props => rfl

theorem idsOf_cons {v : Js} {vehicleId : String} (h : vehicleId? v = some vehicleId)
    (rest : List Js) : idsOf (v :: rest) = vehicleId :: idsOf rest := by
  simp [idsOf, h]

/-- A loop over plain vehicles does a round for each. `fresh` says that there are no cards yet. -/
theorem forVehicles_rounds {body : String → Js → Tab → Tab × Bool} (fresh : Prop)
    (hbody : ∀ v vehicleId, vehicleId? v = some vehicleId → PlainVehicle b v → ∀ t, Coherent t →
      t.note = false → (fresh → t.cardMap.get? vehicleId = none) →
      ∃ t', body vehicleId v t = (t', true) ∧ Round b s vehicleId v t t')
    {vs : List Js} (hvs : ∀ v ∈ vs, PlainVehicle b v) (hids : (idsOf vs).Nodup) {t : Tab}
    (hco : Coherent t) (hnote : t.note = false)
    (hfresh : fresh → ∀ vehicleId ∈ idsOf vs, cardOf t vehicleId = none) :
    ∃ t', forVehicles body vs t = (t', true) ∧ Coherent t' ∧ SamePanel t t' ∧
      (∀ v ∈ vs, ∀ vehicleId, vehicleId? v = some vehicleId → ∃ c, cardOf t' vehicleId = some c ∧
        Shows b v (leafOf s vehicleId) c ∧ Fresh b v c) ∧
      ∀ j, j ∉ idsOf vs → cardOf t' j = cardOf t j := by
  induction vs generalizing t with
  | nil => exact ⟨t, rfl, hco, .refl t, fun v hv => (by cases hv), fun j _ => rfl⟩
  | cons v rest ih =>
    have hv := hvs v List.mem_cons_self
    obtain ⟨vehicleId, hid, -⟩ := hv.vehicleId
    rw [idsOf_cons hid] at hids hfresh ⊢
    rw [List.nodup_cons] at hids
    have hnew : fresh → t.cardMap.get? vehicleId = none := by
      intro hf
      cases hel : t.cardMap.get? vehicleId with
      | none => rfl
      | some el =>
        have hsome := hco.cardOf_isSome hel
        rw [hfresh hf vehicleId List.mem_cons_self] at hsome
        cases hsome
    obtain ⟨m, hm, hround⟩ := hbody v vehicleId hid hv t hco hnote hnew
    have hrest : fresh → ∀ j ∈ idsOf rest, cardOf m j = none := by
      intro hf j hj
      have hne : j ≠ vehicleId := fun h => hids.1 (h ▸ hj)
      rw [hround.other j hne]
      exact hfresh hf j (List.mem_cons_of_mem _ hj)
    obtain ⟨t', ht', hco', hpanel, hevery, hother⟩ :=
      ih (fun w hw => hvs w (List.mem_cons_of_mem _ hw)) hids.2 hround.coherent
        (hround.panel.note.trans hnote) hrest
    refine ⟨t', ?_, hco', hround.panel.trans hpanel, ?_, ?_⟩
    · simp only [forVehicles, not_nullish hid, Bool.false_eq_true, if_false, hid, hm]
      exact ht'
    · intro w hw j hj
      rcases List.mem_cons.mp hw with rfl | hw
      · rw [hid] at hj
        cases hj
        rw [hother vehicleId hids.1]
        exact hround.own
      · exact hevery w hw j hj
    · intro j hj
      rw [List.mem_cons, not_or] at hj
      rw [hother j hj.2, hround.other j hj.1]

theorem foldl_dropStale (incoming : List String) {l : List (String × Nat)} {t : Tab}
    (hco : Coherent t) (hkeys : (l.map Prod.fst).Nodup)
    (hget : ∀ e ∈ l, t.cardMap.get? e.1 = some e.2) :
    Coherent (l.foldl (dropStale incoming) t) ∧ SamePanel t (l.foldl (dropStale incoming) t) ∧
      ∀ j, cardOf (l.foldl (dropStale incoming) t) j =
        if j ∈ l.map Prod.fst ∧ j ∉ incoming then none else cardOf t j := by
  induction l generalizing t with
  | nil => exact ⟨hco, .refl t, fun j => by simp⟩
  | cons e rest ih =>
    rw [List.map_cons, List.nodup_cons] at hkeys
    rw [List.foldl_cons, List.map_cons]
    have hel := hget e List.mem_cons_self
    by_cases he : e.1 ∈ incoming
    · rw [dropStale, if_pos he]
      obtain ⟨hco', hpanel, hcards⟩ :=
        ih hco hkeys.2 fun e' he' => hget e' (List.mem_cons_of_mem _ he')
      refine ⟨hco', hpanel, fun j => (hcards j).trans ?_⟩
      by_cases hj : j = e.1
      · rw [hj, if_neg fun h => h.2 he, if_neg fun h => h.2 he]
      · simp only [List.mem_cons, hj, false_or]
    · rw [dropStale, if_neg he]
      have hget' : ∀ e' ∈ rest, (t.cardMap.erase e.1).get? e'.1 = some e'.2 := by
        intro e' he'
        have hne : e'.1 ≠ e.1 := fun h => hkeys.1 (h ▸ List.mem_map_of_mem he')
        rw [Dict.get?_erase, if_neg hne]
        exact hget e' (List.mem_cons_of_mem _ he')
      obtain ⟨hco', hpanel, hcards⟩ := ih (hco.remove hel) hkeys.2 hget'
      refine ⟨hco', ⟨hpanel.mounted, hpanel.note, hpanel.subscribed⟩,
        fun j => (hcards j).trans ?_⟩
      rw [hco.cardOf_remove hel]
      by_cases hj : j = e.1
      · rw [hj, if_neg fun h => hkeys.1 h.1, if_pos rfl, if_pos ⟨List.mem_cons_self, he⟩]
      · simp only [List.mem_cons, hj, false_or, if_false]

/-- The cards of the vehicles that still come are kept. -/
theorem removeStale_spec {t : Tab} (hco : Coherent t) (incoming : List String) :
    Coherent (removeStale incoming t) ∧ SamePanel t (removeStale incoming t) ∧
      ∀ j, cardOf (removeStale incoming t) j = if j ∈ incoming then cardOf t j else none := by
  obtain ⟨hco', hpanel, hcards⟩ := foldl_dropStale incoming hco t.cardMap.nodup fun e he =>
    (Dict.lookupEntry_eq_some_iff t.cardMap.nodup).mpr he
  refine ⟨hco', hpanel, fun j => (hcards j).trans ?_⟩
  by_cases hj : j ∈ incoming
  · simp [hj]
  · by_cases hmem : j ∈ t.cardMap.keys
    · rw [if_pos ⟨hmem, hj⟩, if_neg hj]
    · rw [if_neg fun h => hmem h.1, if_neg hj, cardOf]
      rw [Dict.mem_keys_iff, Bool.not_eq_true, Option.isSome_eq_false_iff,
        Option.isNone_iff_eq_none] at hmem
      rw [hmem, Option.bind_none]

end Loops

/-! ## A redraw -/

section Redraw

variable {b : Browser} {s : Store}

/-- A fleet of plain vehicles with different ids. -/
def PlainFleet (b : Browser) (fleet : Js) : Prop :=
  ∃ vs, fleet.prop "vehicles" = .arr vs ∧ (idsOf vs).Nodup ∧ ∀ v ∈ vs, PlainVehicle b v

/-- No redraw throws for the store. -/
structure PlainStore (b : Browser) (s : Store) : Prop where
  fleet : PlainFleet b s.fleet
  telemetry (vehicleId) : PlainTelemetry b (leafOf s vehicleId)

/-- The grid is up to date: there is one card for each vehicle and no other, and it shows the
vehicle; the inputs are where the vehicle is unless the user has `touched` them. -/
structure Drawn (b : Browser) (s : Store) (touched : List Nat) (t : Tab) : Prop where
  coherent : Coherent t
  every (v) : v ∈ vehiclesOf s.fleet → ∀ vehicleId, vehicleId? v = some vehicleId →
    ∃ el c, t.cardMap.get? vehicleId = some el ∧ t.grid.get? el = some c ∧
      Shows b v (leafOf s vehicleId) c ∧ (el ∉ touched → Fresh b v c)
  only (el c) : t.grid.get? el = some c → c.vehicleId ∈ idsOf (vehiclesOf s.fleet)
  note : t.note = (vehiclesOf s.fleet).isEmpty

theorem vehiclesOf_plain {fleet : Js} {vs : List Js} (hprop : fleet.prop "vehicles" = .arr vs)
    (hvs : ∀ v ∈ vs, PlainVehicle b v) : vehiclesOf fleet = vs := by
  rw [vehiclesOf, hprop]
  apply List.takeWhile_eq_self_iff.mpr
  intro v hv
  obtain ⟨vehicleId, hid, -⟩ := (hvs v hv).vehicleId
  simp [not_nullish hid]

theorem sortedVehicles_plain {vs : List Js} (hvs : ∀ v ∈ vs, PlainVehicle b v) :
    sortedVehicles (.arr vs) = some (vs.insertionSort fun v w => fleetIndex v ≤ fleetIndex w) := by
  have hany : ¬ vs.any Js.isNullish = true := by
    rw [List.any_eq_true]
    rintro ⟨v, hv, hnull⟩
    obtain ⟨vehicleId, hid, -⟩ := (hvs v hv).vehicleId
    rw [not_nullish hid] at hnull
    cases hnull
  simp [sortedVehicles, Js.truthy, hany]

/-- Sorting a plain fleet gives its vehicles. -/
theorem sorted_fleet (h : PlainStore b s) : ∃ sorted,
    sortedVehicles (s.fleet.prop "vehicles") = some sorted ∧
      sorted.Perm (vehiclesOf s.fleet) ∧ (idsOf sorted).Nodup ∧ ∀ v ∈ sorted, PlainVehicle b v := by
  obtain ⟨vs, hprop, hids, hvs⟩ := h.fleet
  have hperm := List.perm_insertionSort (fun v w => fleetIndex v ≤ fleetIndex w) vs
  refine ⟨_, by rw [hprop, sortedVehicles_plain hvs], ?_, ?_, ?_⟩
  · rw [vehiclesOf_plain hprop hvs]
    exact hperm
  · exact (hperm.filterMap vehicleId?).nodup_iff.mpr hids
  · intro v hv
    exact hvs v (hperm.mem_iff.mp hv)

/-- The grid after a loop over the vehicles, which is to add the cards that are missing. -/
theorem drawn_loop {t t' : Tab} {sorted : List Js} (hperm : sorted.Perm (vehiclesOf s.fleet))
    (hne : sorted ≠ []) (hnote : t.note = false) (hco : Coherent t') (hpanel : SamePanel t t')
    (hevery : ∀ v ∈ sorted, ∀ vehicleId, vehicleId? v = some vehicleId →
      ∃ c, cardOf t' vehicleId = some c ∧ Shows b v (leafOf s vehicleId) c ∧ Fresh b v c)
    (hother : ∀ j, j ∉ idsOf sorted → cardOf t' j = none) : Drawn b s [] t' where
  coherent := hco
  every v hv vehicleId hid := by
    obtain ⟨c, hc, hshows, hfresh⟩ := hevery v (hperm.mem_iff.mpr hv) vehicleId hid
    obtain ⟨el, hel, hget⟩ := cardOf_eq_some.mp hc
    exact ⟨el, c, hel, hget, hshows, fun _ => hfresh⟩
  only el c hc := by
    have hcard : cardOf t' c.vehicleId = some c :=
      cardOf_eq_some.mpr ⟨el, (hco.shown el c hc).1, hc⟩
    apply (hperm.filterMap vehicleId?).mem_iff.mp
    by_contra hmem
    rw [hother c.vehicleId hmem] at hcard
    cases hcard
  note := by
    rw [hpanel.note, hnote]
    cases hvs : vehiclesOf s.fleet with
    | nil =>
      rw [hvs] at hperm
      exact absurd hperm.eq_nil hne
    | cons v rest => rfl

theorem drawn_empty (h : vehiclesOf s.fleet = []) (t : Tab) :
    Drawn b s [] { t with note := true, grid := Dict.empty, cardMap := Dict.empty } where
  coherent := .cleared true
  every v hv := by
    rw [h] at hv
    cases hv
  only el c hc := by cases hc
  note := by
    rw [h]
    rfl

/-- `renderGrid` draws the grid from anew. -/
theorem renderGrid_drawn (hb : KeepsPlain b) (h : PlainStore b s) (t : Tab) :
    ∃ t', renderGrid b s t = (t', true) ∧ Drawn b s [] t' ∧ t'.mounted = t.mounted ∧
      t'.subscribed = t.subscribed := by
  obtain ⟨sorted, hsorted, hperm, hids, hvs⟩ := sorted_fleet h
  unfold renderGrid
  rw [hsorted]
  cases sorted with
  | nil => exact ⟨_, rfl, drawn_empty hperm.nil_eq.symm t, rfl, rfl⟩
  | cons v rest =>
    obtain ⟨t', ht', hco, hpanel, hevery, hother⟩ :=
      forVehicles_rounds (b := b) (s := s) True
        (fun v vehicleId hid hv t hco hnote hnew =>
          addCard_round hb hid hv (h.telemetry vehicleId) hco hnote (hnew trivial))
        hvs hids (Coherent.cleared (t := t) false) rfl (fun _ _ _ => rfl)
    exact ⟨t', ht', drawn_loop hperm (List.cons_ne_nil v rest) rfl hco hpanel hevery
      fun j hj => (hother j hj).trans rfl, hpanel.mounted, hpanel.subscribed⟩

theorem note_of_cards {t : Tab} (hco : Coherent t) (h : t.cardMap.entries.isEmpty = false) :
    t.note = false := by
  cases hentries : t.cardMap.entries with
  | nil =>
    rw [hentries] at h
    cases h
  | cons e rest =>
    cases hnote : t.note with
    | false => rfl
    | true =>
      have hnone := hco.note e.1 hnote
      rw [Dict.get?, hentries, Dict.lookupEntry, if_pos rfl] at hnone
      cases hnone

/-- `updateCards` leaves the grid as `renderGrid` would, but for the elements. -/
theorem updateCards_drawn (hb : KeepsPlain b) (h : PlainStore b s) {t : Tab} (hco : Coherent t)
    (hmounted : t.mounted = true) :
    Drawn b s [] (updateCards b s t) ∧ (updateCards b s t).mounted = true ∧
      (updateCards b s t).subscribed = t.subscribed := by
  obtain ⟨sorted, hsorted, hperm, hids, hvs⟩ := sorted_fleet h
  have hif : (!t.mounted) = false := by
    rw [hmounted]
    rfl
  unfold updateCards
  rw [hsorted, hif]
  cases sorted with
  | nil => exact ⟨drawn_empty hperm.nil_eq.symm t, hmounted, rfl⟩
  | cons v rest =>
    have hany : (v :: rest).any Js.isNullish = false := by
      rw [Bool.eq_false_iff, ne_eq, List.any_eq_true]
      rintro ⟨w, hw, hnull⟩
      obtain ⟨vehicleId, hid, -⟩ := (hvs w hw).vehicleId
      rw [not_nullish hid] at hnull
      cases hnull
    cases hentries : t.cardMap.entries.isEmpty with
    | true =>
      obtain ⟨t', ht', hdrawn, hpanel⟩ := renderGrid_drawn hb h t
      simp only [Bool.false_eq_true, if_false, if_true, ht']
      exact ⟨hdrawn, hpanel.1.trans hmounted, hpanel.2⟩
    | false =>
      simp only [Bool.false_eq_true, if_false, hany]
      obtain ⟨hkept, hkeptPanel, hkeptCards⟩ := removeStale_spec hco (idsOf (v :: rest))
      obtain ⟨t', ht', hco', hpanel, hevery, hother⟩ :=
        forVehicles_rounds (b := b) (s := s) False
          (fun v vehicleId hid hv t hco hnote _ =>
            updateCard_round hb hid hv (h.telemetry vehicleId) hco hnote)
          hvs hids hkept (hkeptPanel.note.trans (note_of_cards hco hentries)) nofun
      have hall := hkeptPanel.trans hpanel
      rw [ht']
      refine ⟨drawn_loop hperm (List.cons_ne_nil v rest) (note_of_cards hco hentries) hco' hall
        hevery fun j hj => ?_, hall.mounted.trans hmounted, hall.subscribed⟩
      rw [hother j hj, hkeptCards, if_neg hj]

theorem iterate_unmounted {t : Tab} (h : t.mounted = false) (n : Nat) :
    (updateCards b s)^[n] t = t := by
  apply Function.iterate_fixed
  simp [updateCards, h]

/-- However many subscriptions there are, the grid is drawn. -/
theorem iterate_drawn (hb : KeepsPlain b) (h : PlainStore b s) {t : Tab} (hco : Coherent t)
    (hmounted : t.mounted = true) (n : Nat) :
    Drawn b s [] ((updateCards b s)^[n + 1] t) ∧ ((updateCards b s)^[n + 1] t).mounted = true ∧
      ((updateCards b s)^[n + 1] t).subscribed = t.subscribed := by
  induction n with
  | zero => exact updateCards_drawn hb h hco hmounted
  | succ n ih =>
    obtain ⟨hdrawn, hm, hsubscribed⟩ := ih
    rw [Function.iterate_succ_apply']
    obtain ⟨hdrawn', hm', hsubscribed'⟩ := updateCards_drawn hb h hdrawn.coherent hm
    exact ⟨hdrawn', hm', hsubscribed'.trans hsubscribed⟩

/-- A touch concerns the inputs of one card. -/
theorem Drawn.touch {touched : List Nat} {t : Tab} (h : Drawn b s touched t) {el : Nat} {c : Card}
    (hc : t.grid.get? el = some c) (touch : Touch) :
    Drawn b s (el :: touched) { t with grid := t.grid.set el (touch.apply c) } where
  coherent := h.coherent.patch hc (touch.apply_ids c).1 (touch.apply_ids c).2
  every v hv vehicleId hid := by
    obtain ⟨el', c', hel, hc', hshows, hfresh⟩ := h.every v hv vehicleId hid
    by_cases hsame : el' = el
    · subst hsame
      rw [hc] at hc'
      cases hc'
      exact ⟨el', touch.apply c, hel, Dict.get?_set_self _ _ _, hshows.touch touch,
        fun hnot => absurd List.mem_cons_self hnot⟩
    · exact ⟨el', c', hel, (Dict.get?_set_ne _ _ hsame).trans hc', hshows,
        fun hnot => hfresh fun hmem => hnot (List.mem_cons_of_mem _ hmem)⟩
  only el' c' hc' := by
    rw [Dict.get?_set] at hc'
    split at hc'
    · cases hc'
      rw [(touch.apply_ids c).1]
      exact h.only el c hc
    · exact h.only el' c' hc'
  note := h.note

end Redraw

/-! ## The tab over a run -/

section Run

variable (b : Browser) (text : Key → String)

/-- The message changes the store, and the tab is redrawn. -/
def redraws : GroupEvent → Bool
  | .fleet payload => (parsed text payload).isObject
  | .schedule _ => true
  | .navsat payload => (parsed text payload).isArray
  | .telemetry vehicleId leaf _ => Named vehicleId ∧ Named leaf
  | .unknown _ => false

/-- No card throws for what the message says, and all texts in it are plain. -/
def PlainMessage : GroupEvent → Prop
  | .fleet payload => PlainFleet b (parsed text payload)
  | .telemetry _ leaf payload =>
      PlainTelemetry b fun l => if l = leaf then parsed text payload else .undefined
  | _ => True

/-- The messages of a history. -/
def messages (events : List Event) : List GroupEvent :=
  events.filterMap fun
    | .message ev => some ev
    | _ => none

/-- The elements that the user has touched since the last redraw. -/
def touchedBy (touched : List Nat) : Event → List Nat
  | .message ev => if redraws text ev then [] else touched
  | .mount => []
  | .unmount => touched
  | .touch el _ => el :: touched

def touchedSince (events : List Event) : List Nat := events.foldl (touchedBy text) []

/-- The tab is the one that was chosen. -/
def chosenBy (chosen : Bool) : Event → Bool
  | .mount => true
  | .unmount => false
  | .message _ => chosen
  | .touch _ _ => chosen

def chosenAfter (events : List Event) : Bool := events.foldl chosenBy false

/-- What holds of the page after any history. -/
structure Sound (chosen : Bool) (touched : List Nat) (p : Page) : Prop where
  plain : PlainStore b p.store
  mounted : p.tab.mounted = chosen
  subscribed : chosen = true → 0 < p.tab.subscribed
  drawn : chosen = true → Drawn b p.store touched p.tab

variable {b text}

theorem plainTelemetry_undefined : PlainTelemetry b fun _ => .undefined where
  speed := ⟨"—", rfl, by decide⟩
  bearing := ⟨"—", rfl, by decide⟩
  status := by
    show plainText "—" = true
    decide
  occ := by
    show plainText "—" = true
    decide

/-- Each leaf is shown on its own. -/
theorem PlainTelemetry.mix {f g h : String → Js} (hf : PlainTelemetry b f)
    (hg : PlainTelemetry b g) (hh : ∀ leaf, h leaf = f leaf ∨ h leaf = g leaf) :
    PlainTelemetry b h where
  speed := by
    rcases hh "position" with heq | heq <;> rw [heq]
    · exact hf.speed
    · exact hg.speed
  bearing := by
    rcases hh "position" with heq | heq <;> rw [heq]
    · exact hf.bearing
    · exact hg.bearing
  status := by
    rcases hh "progression" with heq | heq <;> rw [heq]
    · exact hf.status
    · exact hg.status
  occ := by
    rcases hh "occupancy" with heq | heq <;> rw [heq]
    · exact hf.occ
    · exact hg.occ

theorem sound_start : Sound b false [] {} where
  plain := {
    fleet := ⟨[], rfl, List.nodup_nil, nofun⟩
    telemetry _ := plainTelemetry_undefined }
  mounted := rfl
  subscribed h := by cases h
  drawn h := by cases h

theorem effect_page (p : Page) (ev : GroupEvent) :
    effect text (handle b) p ev =
      { store := effect text Store.handle p.store ev
        tab := if redraws text ev then
            (updateCards b (effect text Store.handle p.store ev))^[p.tab.subscribed] p.tab
          else p.tab } := by
  cases ev with
  | telemetry vehicleId leaf payload =>
    by_cases hnamed : Named vehicleId ∧ Named leaf
    · have hlevels := levels_vehicleTopic vehicleId leaf
      rw [levels_named hnamed.1.2, levels_named hnamed.2.2] at hlevels
      simp [effect, hnamed, redraws, handle, notifies, hlevels]
    · simp [effect, hnamed, redraws]
  | _ => rfl

theorem effect_same {ev : GroupEvent} (h : redraws text ev = false) (s : Store) :
    effect text Store.handle s ev = s := by
  cases ev with
  | fleet payload => simp [effect, Store.handle, show (parsed text payload).isObject = false from h]
  | schedule payload => cases h
  | navsat payload => simp [effect, Store.handle, show (parsed text payload).isArray = false from h]
  | telemetry vehicleId leaf payload =>
    have hnamed : ¬ (Named vehicleId ∧ Named leaf) := of_decide_eq_false h
    simp [effect, hnamed]
  | unknown kind => rfl

theorem plainStore_effect {s : Store} {ev : GroupEvent} (h : PlainStore b s)
    (hev : PlainMessage b text ev) : PlainStore b (effect text Store.handle s ev) := by
  obtain ⟨hfleet, -, -, htelemetry⟩ := @Store.effect_reports text s ev
  constructor
  · rw [hfleet]
    cases ev with
    | fleet payload =>
      cases hobj : (parsed text payload).isObject with
      | false => simpa [fleetReport, hobj, Option.filter] using h.fleet
      | true =>
        have hreport : fleetReport text (.fleet payload) = some (parsed text payload) := by
          simp [fleetReport, hobj, Option.filter]
        rw [hreport]
        exact hev
    | _ => exact h.fleet
  · intro vehicleId
    have hleaf : ∀ leaf, leafOf (effect text Store.handle s ev) vehicleId leaf =
        ((telemetryReport text vehicleId leaf ev).or (s.telemetryOf vehicleId leaf)).getD
          .undefined := fun leaf => congrArg (Option.getD · _) (htelemetry vehicleId leaf)
    cases ev with
    | telemetry v l payload =>
      refine .mix hev (h.telemetry vehicleId) fun leaf => ?_
      rw [hleaf, telemetryReport]
      split
      · rename_i hnamed
        exact .inl (if_pos hnamed.2.2.2.symm).symm
      · exact .inr rfl
    | _ => exact .mix (h.telemetry vehicleId) (h.telemetry vehicleId) fun leaf => .inl (hleaf leaf)

theorem sound_message (hb : KeepsPlain b) {chosen : Bool} {touched : List Nat} {p : Page}
    (h : Sound b chosen touched p) {ev : GroupEvent} (hev : PlainMessage b text ev) :
    Sound b chosen (touchedBy text touched (.message ev)) (effect text (handle b) p ev) := by
  have hplain := plainStore_effect h.plain hev
  rw [effect_page, touchedBy]
  cases hredraws : redraws text ev with
  | false =>
    rw [effect_same hredraws]
    exact h
  | true =>
    rw [if_pos rfl, if_pos rfl]
    cases chosen with
    | false =>
      rw [iterate_unmounted h.mounted]
      exact ⟨hplain, h.mounted, nofun, nofun⟩
    | true =>
      obtain ⟨n, hn⟩ := Nat.exists_eq_succ_of_ne_zero (h.subscribed rfl).ne'
      obtain ⟨hdrawn, hmounted, hsubscribed⟩ :=
        iterate_drawn hb hplain (h.drawn rfl).coherent h.mounted n
      rw [hn]
      refine ⟨hplain, hmounted, fun _ => ?_, fun _ => hdrawn⟩
      show 0 < ((updateCards b _)^[n + 1] p.tab).subscribed
      rw [hsubscribed]
      exact h.subscribed rfl

theorem sound_mount (hb : KeepsPlain b) {chosen : Bool} {touched : List Nat} {p : Page}
    (h : Sound b chosen touched p) : Sound b true [] { p with tab := mount b p.store p.tab } := by
  obtain ⟨t', ht', hdrawn, hmounted, -⟩ := renderGrid_drawn hb h.plain
    { p.tab with mounted := true, note := false, grid := Dict.empty, cardMap := Dict.empty }
  have hmount : mount b p.store p.tab =
      { t' with subscribed := t'.subscribed + 1, unsub := true } := by
    simp only [mount, ht', if_true]
  rw [hmount]
  exact ⟨h.plain, hmounted, fun _ => Nat.succ_pos _, fun _ =>
    ⟨⟨hdrawn.coherent.mapped, hdrawn.coherent.shown, hdrawn.coherent.note⟩, hdrawn.every,
      hdrawn.only, hdrawn.note⟩⟩

/-- What each event of the page preserves. -/
theorem sound_step (hb : KeepsPlain b) {chosen : Bool} {touched : List Nat} {p p' : Page}
    {ev : Event} (h : Sound b chosen touched p) (hstep : step b text p ev = some p')
    (hev : ∀ m ∈ messages [ev], PlainMessage b text m) :
    Sound b (chosenBy chosen ev) (touchedBy text touched ev) p' := by
  cases ev with
  | message ev =>
    rw [feedStep_some text b.display (handle b) hstep]
    exact sound_message hb h (hev ev List.mem_cons_self)
  | mount =>
    cases hstep
    exact sound_mount hb h
  | unmount =>
    cases hstep
    exact ⟨h.plain, rfl, nofun, nofun⟩
  | touch el touch =>
    obtain ⟨c, hc, rfl⟩ := Option.map_eq_some_iff.mp hstep
    exact ⟨h.plain, h.mounted, h.subscribed, fun hchosen => (h.drawn hchosen).touch hc touch⟩

theorem sound_run (hb : KeepsPlain b) {events : List Event} {chosen : Bool} {touched : List Nat}
    {p p' : Page} (h : Sound b chosen touched p) (hrun : (step b text).run p events = some p')
    (hplain : ∀ m ∈ messages events, PlainMessage b text m) :
    Sound b (events.foldl chosenBy chosen) (events.foldl (touchedBy text) touched) p' := by
  induction events generalizing chosen touched p with
  | nil =>
    cases hrun
    exact h
  | cons ev events ih =>
    obtain ⟨m, hm, hrest⟩ := run_cons_some.mp hrun
    have hsplit : messages (ev :: events) = messages [ev] ++ messages events :=
      List.filterMap_append (l := [ev])
    rw [hsplit] at hplain
    exact ih (sound_step hb h hm fun m hm => hplain m (List.mem_append_left _ hm)) hrest
      fun m hm => hplain m (List.mem_append_right _ hm)

/-- Of the store there is what the messages say. -/
theorem store_run {events : List Event} {p p' : Page}
    (hrun : (step b text).run p events = some p') :
    (feedStep text b.display Store.handle).run p.store (messages events) = some p'.store := by
  induction events generalizing p with
  | nil =>
    cases hrun
    rfl
  | cons ev events ih =>
    obtain ⟨m, hm, hrest⟩ := run_cons_some.mp hrun
    have hih := ih hrest
    cases ev with
    | message ev =>
      have hm' : feedStep text b.display (handle b) p ev = some m := hm
      have hstore : feedStep text b.display Store.handle p.store ev = some m.store := by
        rw [feedStep_some text b.display (handle b) hm']
        rw [feedStep_eq] at hm' ⊢
        cases hframe : (fleetUpdate ev).toOption with
        | none =>
          rw [hframe] at hm'
          cases hm'
        | some frame =>
          rw [effect_page]
          rfl
      exact run_cons_some.mpr ⟨m.store, hstore, hih⟩
    | mount =>
      cases hm
      exact hih
    | unmount =>
      cases hm
      exact hih
    | touch el touch =>
      obtain ⟨c, hc, rfl⟩ := Option.map_eq_some_iff.mp hm
      exact hih

/-- After any messages, clicks on the tabs and touches of the cards the store mirrors the messages,
and the tab, while it is chosen, has one card for each vehicle of the latest fleet. The card shows
the latest state and telemetry of the vehicle, and its inputs are where the vehicle is, unless the
user has touched them since the last change of the store. -/
theorem cards_current (hb : KeepsPlain b) {events : List Event} {p : Page}
    (hrun : (step b text).run {} events = some p)
    (hplain : ∀ m ∈ messages events, PlainMessage b text m) :
    Store.Mirrors text (messages events) p.store ∧
      (chosenAfter events = true → Drawn b p.store (touchedSince text events) p.tab) :=
  ⟨Store.feed_mirrors (store_run hrun), (sound_run hb sound_start hrun hplain).drawn⟩

/-- The texts of the messages below hold no markup, and no slider of them is moved. -/
def simpleBrowser : Browser where
  display _ := ""
  toFixed _ _ := ""
  markup s := s
  ranged _ value := value

/-- The tab is chosen twice; then `unit-01` leaves and `unit-03` comes. -/
def changingFleet : List Event :=
  let unit := fun id state =>
    PyVal.dict [(.str "vehicle_id", .str id), (.str "lifecycle_state", .str state)]
  let fleet := fun units => Event.message (.fleet (.dict [(.str "vehicles", .list units)]))
  [.mount, fleet [unit "unit-01" "Confirmed", unit "unit-02" "Confirmed"], .mount,
    .message (.telemetry "unit-02" "progression"
      (.dict [(.str "current_status", .str "STOPPED_AT")])),
    fleet [unit "unit-03" "Requested", unit "unit-02" "Tracking"]]

/-- The card of `unit-02` is the one it had, with the latest texts. -/
theorem changing_fleet_shown : ∃ p : Page,
    (step simpleBrowser fun _ => "").run {} changingFleet = some p ∧
      (∃ el c, p.tab.cardMap.get? "unit-02" = some el ∧ p.tab.grid.get? el = some c ∧
        c.state = "Tracking" ∧ c.status = "STOPPED_AT") ∧
      ∀ el c, p.tab.grid.get? el = some c → c.vehicleId ∈ ["unit-03", "unit-02"] := by
  have hrun : ∃ p : Page, (step simpleBrowser fun _ => "").run {} changingFleet = some p := by
    simp only [changingFleet, step, System.run, feedStep_eq]
    exact ⟨_, rfl⟩
  obtain ⟨p, hp⟩ := hrun
  have hunit : ∀ id state : String, plainText id = true → plainText state = true →
      PlainVehicle simpleBrowser
        (.obj [("vehicle_id", .str id), ("lifecycle_state", .str state)]) := by
    intro id state hid hstate
    have htitle : plainText "no run" = true := by decide
    refine ⟨⟨id, rfl, hid⟩, hstate, htitle, ⟨"—", rfl, by decide⟩, ?_, ?_⟩
    · intro text htext
      cases htext
    · intro text htext
      cases htext
  have hplain : ∀ m ∈ messages changingFleet, PlainMessage simpleBrowser (fun _ => "") m := by
    intro m hm
    rcases List.mem_cons.mp hm with rfl | hm
    · refine ⟨_, rfl, by decide, ?_⟩
      intro v hv
      rcases List.mem_cons.mp hv with rfl | hv
      · exact hunit "unit-01" "Confirmed" (by decide) (by decide)
      · rw [List.mem_singleton.mp hv]
        exact hunit "unit-02" "Confirmed" (by decide) (by decide)
    rcases List.mem_cons.mp hm with rfl | hm
    · exact ⟨⟨"—", rfl, by decide⟩, ⟨"—", rfl, by decide⟩, by decide, by decide⟩
    rw [List.mem_singleton.mp hm]
    refine ⟨_, rfl, by decide, ?_⟩
    intro v hv
    rcases List.mem_cons.mp hv with rfl | hv
    · exact hunit "unit-03" "Requested" (by decide) (by decide)
    · rw [List.mem_singleton.mp hv]
      exact hunit "unit-02" "Tracking" (by decide) (by decide)
  obtain ⟨hmirrors, hdrawn⟩ := cards_current (b := simpleBrowser) (fun _ _ => rfl) hp hplain
  have hfleet : vehiclesOf p.store.fleet = [
      .obj [("vehicle_id", .str "unit-03"), ("lifecycle_state", .str "Requested")],
      .obj [("vehicle_id", .str "unit-02"), ("lifecycle_state", .str "Tracking")]] := by
    rw [hmirrors.fleet]
    rfl
  have hleaf : leafOf p.store "unit-02" "progression" =
      .obj [("current_status", .str "STOPPED_AT")] := by
    rw [leafOf, hmirrors.telemetry "unit-02" "progression"]
    rfl
  obtain ⟨-, hevery, honly, -⟩ := hdrawn rfl
  rw [hfleet] at hevery honly
  obtain ⟨el, c, hel, hc, hshows, -⟩ :=
    hevery _ (List.mem_cons_of_mem _ List.mem_cons_self) "unit-02" rfl
  refine ⟨p, hp, ⟨el, c, hel, hc, hshows.state, ?_⟩, honly⟩
  rw [hshows.status, hleaf]
  rfl

end Run

end DatabusSim.FleetTab
