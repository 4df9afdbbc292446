import DatabusSim.Runtime.Polls

/-!
# The tick loop and its vehicles

The `for` loop of `tick_loop` guards no vehicle against the others: what `_get_shape` or
`interpolate` raises for one ends the loop. An iteration that goes through has taken every
vehicle of the roster in turn.
-/

namespace DatabusSim

/-- The turns of the iteration in progress, or of the last one. -/
def TickPhase.turns? : TickPhase → Option (List Turn)
  | .sleeping last => last
  | .stepping turns _ _ => some turns
  | .progressing turns _ _ _ => some turns
  | .pushing turns => some turns
  | .dead _ => none

/-- The vehicles that have yet to take theirs. -/
def TickPhase.ahead : TickPhase → List String
  | .stepping _ vehicleId rest => vehicleId :: rest
  | .progressing _ _ _ rest => rest
  | _ => []

namespace TickLoop

open Kinematics

/-! ## One turn -/

section Turn

variable {cfg : TickSettings} {tables : GeometryTables} {s : TickState} {d : Draws} {now : ℚ}
  {turns : List Turn} {vehicleId : String} {rest : List String} {v : Vehicle}
  {shapes : Dict String Shape}

end Turn

/-! ## One iteration -/

variable {cfg : TickSettings} {tables : GeometryTables} {t t' : TickState} {ev : Event}

/-- The turns taken and the vehicles ahead are the roster, and an iteration has shapes. -/
structure InOrder (tables : GeometryTables) (t : TickState) : Prop where
  turns : ∀ turns, t.loop.phase.turns? = some turns →
    turns.map Turn.vehicleId ++ t.loop.phase.ahead = t.fleet.ids
  shapes : t.loop.phase.ahead ≠ [] → ∃ shapes, tables.shapes = some shapes

end TickLoop

namespace Runtime

open Transition TickLoop Kinematics

/-- A living tick loop in the middle of its iterations. -/
structure Ticking (s : Runtime) : Prop where
  inOrder : InOrder s.tables ⟨s.fleet, s.tick⟩
  alive : ∀ exc, s.tick.phase ≠ .dead exc

theorem Ticking.complete {s : Runtime} (h : s.Ticking) (turns : List Turn)
    (hend : s.tick.phase = .pushing turns ∨ s.tick.phase = .sleeping (some turns)) :
    turns.map Turn.vehicleId = s.fleet.ids ∧ (turns.map Turn.vehicleId).Nodup := by
  have hids : turns.map Turn.vehicleId = s.fleet.ids := by
    have hturns := h.inOrder.turns turns
    rcases hend with hend | hend
    · simpa [hend, TickPhase.turns?, TickPhase.ahead] using hturns
    · simpa [hend, TickPhase.turns?, TickPhase.ahead] using hturns
  exact ⟨hids, by rw [hids]; exact Dict.keys_nodup _⟩

variable {cfg : Settings} {s s' : Runtime} {ev : Event}

end Runtime

end DatabusSim
