import Mathlib.Data.List.Basic
import Mathlib.Data.List.Induction
import Mathlib.Order.Bounds.Basic
import Mathlib.Tactic.Linarith
import DatabusSim.Domain.Compute

/-!
# The stops the oracle reports

A tick loop feeds each payload of the oracle into the call after it. The guard keeps the
greater sequence, so on a list in sequence order the payload of a trace of ticks names the
furthest of the stops picked in it. What the guard does not keep is the status: it is the
one of the upcoming stop, also where another stop is named.
-/

namespace DatabusSim

/-- The stop and the sequence a payload names. -/
def ShapeStop.pair (st : ShapeStop) : String × Int := (st.stopId, st.stopSequence)

namespace Compute

theorem pickUpcomingStop_mem {stops : List ShapeStop} {progressM : ℚ} {st : ShapeStop}
    (h : pickUpcomingStop stops progressM = some st) : st ∈ stops := by
  unfold pickUpcomingStop at h
  split at h
  · rename_i s hs
    cases h
    exact List.mem_of_find?_eq_some hs
  · exact List.mem_of_getLast? h

theorem pickUpcomingStop_some {stops : List ShapeStop} (progressM : ℚ) (h : stops ≠ []) :
    ∃ st, pickUpcomingStop stops progressM = some st := by
  unfold pickUpcomingStop
  split
  · exact ⟨_, rfl⟩
  · exact ⟨_, List.getLast?_eq_getLast_of_ne_nil h⟩

/-- The sequence the guard holds against the upcoming stop: the one of the last payload, where
it is the greater. -/
def heldSequence (candidate : ShapeStop) (prevState : Option StopStatus) : Option Int :=
  (prevState.bind (·.currentStopSequence)).filter fun seq => candidate.stopSequence < seq

/-- The stop the guard names then. -/
def heldStop (candidate : ShapeStop) (prevState : Option StopStatus) : String :=
  (prevState.bind (·.stopId)).getD candidate.stopId

theorem guardSequence_eq (candidate : ShapeStop) (prevState : Option StopStatus) :
    guardSequence candidate prevState =
      match heldSequence candidate prevState with
      | some seq => (seq, heldStop candidate prevState)
      | none => (candidate.stopSequence, candidate.stopId) := by
  unfold guardSequence heldSequence heldStop
  rcases prevState with _ | ⟨status, seq, stop⟩
  · rfl
  · rcases seq with _ | seq
    · rfl
    · by_cases h : candidate.stopSequence < seq
      · simp [h, Option.filter_some]
      · simp [h, Option.filter_some]

section Payload

variable {geo : Geo} {progressM lat lon : ℚ} {stops : List ShapeStop} {speed : Option ℚ}
  {prevState : Option StopStatus} {candidate : ShapeStop}

/-- The payload of a vehicle with an upcoming stop names the pair the guard has chosen. -/
theorem computeStopStatus_names (h : pickUpcomingStop stops progressM = some candidate) :
    (computeStopStatus geo progressM lat lon stops speed prevState).currentStopSequence =
        some (guardSequence candidate prevState).1 ∧
      (computeStopStatus geo progressM lat lon stops speed prevState).stopId =
        some (guardSequence candidate prevState).2 := by
  simp [computeStopStatus, h]

/-- It is a stop of the list exactly when the guard holds nothing against the upcoming stop, or
holds a stop of the list. -/
theorem names_iff (h : pickUpcomingStop stops progressM = some candidate) :
    ((guardSequence candidate prevState).2, (guardSequence candidate prevState).1) ∈
        stops.map ShapeStop.pair ↔
      ∀ seq, heldSequence candidate prevState = some seq →
        (heldStop candidate prevState, seq) ∈ stops.map ShapeStop.pair := by
  rw [guardSequence_eq]
  cases hheld : heldSequence candidate prevState with
  | none =>
    have hmem := List.mem_map_of_mem (f := ShapeStop.pair) (pickUpcomingStop_mem h)
    exact iff_of_true hmem fun seq hs => nomatch hs
  | some seq => simp

end Payload

/-! ## The upcoming stop -/

section Upcoming

variable {stops : List ShapeStop} {progressM : ℚ} {candidate : ShapeStop}

/-- The upcoming stop: the stops before it are behind the vehicle, and it is not, or it is
the last. -/
theorem pickUpcomingStop_iff :
    pickUpcomingStop stops progressM = some candidate ↔
      ∃ before after, stops = before ++ candidate :: after ∧
        (∀ st ∈ before, st.progressM < progressM) ∧
        (progressM ≤ candidate.progressM ∨ after = []) := by
  have hbehind : ∀ l : List ShapeStop,
      (∀ st ∈ l, !decide (progressM ≤ st.progressM)) ↔ ∀ st ∈ l, st.progressM < progressM := by
    intro l
    simp
  unfold pickUpcomingStop
  cases hfind : stops.find? fun s => decide (progressM ≤ s.progressM) with
  | some st =>
    obtain ⟨hahead, before, after, hstops, hpassed⟩ := List.find?_eq_some_iff_append.mp hfind
    have hpassed := (hbehind before).mp hpassed
    have hahead := of_decide_eq_true hahead
    constructor
    · intro h
      cases h
      exact ⟨before, after, hstops, hpassed, .inl hahead⟩
    · rintro ⟨before', after', hstops', hpassed', hlast⟩
      by_cases hcand : progressM ≤ candidate.progressM
      · have hfind' : stops.find? (fun s => decide (progressM ≤ s.progressM)) = some candidate :=
          List.find?_eq_some_iff_append.mpr
            ⟨by simpa using hcand, before', after', hstops', (hbehind before').mpr hpassed'⟩
        rw [hfind] at hfind'
        exact hfind'
      · -- every stop is behind the vehicle then
        obtain rfl : after' = [] := hlast.resolve_left hcand
        have hmem : st ∈ before' ++ [candidate] := by
          rw [← hstops', hstops]
          simp
        rcases List.mem_append.mp hmem with hmem | hmem
        · exact absurd hahead (not_le.mpr (hpassed' st hmem))
        · rw [List.mem_singleton.mp hmem] at hahead
          exact absurd hahead hcand
  | none =>
    have hnone : ∀ st ∈ stops, st.progressM < progressM := by
      intro st hst
      simpa using List.find?_eq_none.mp hfind st hst
    constructor
    · intro h
      obtain ⟨before, hstops⟩ := List.getLast?_eq_some_iff.mp h
      refine ⟨before, [], hstops, fun st hst => hnone st ?_, .inr rfl⟩
      rw [hstops]
      exact List.mem_append_left _ hst
    · rintro ⟨before, after, hstops, -, hlast⟩
      have hbehind : candidate.progressM < progressM := hnone candidate (by rw [hstops]; simp)
      obtain rfl : after = [] := hlast.resolve_left (not_le.mpr hbehind)
      exact List.getLast?_eq_some_iff.mpr ⟨before, hstops⟩

/-- In a list in sequence order the sequences are in the order of the places. -/
theorem sequence_lt_iff (hseq : stops.Pairwise (·.stopSequence < ·.stopSequence)) {i j : Nat}
    {st st' : ShapeStop} (hi : stops[i]? = some st) (hj : stops[j]? = some st') :
    st.stopSequence < st'.stopSequence ↔ i < j := by
  obtain ⟨hi', rfl⟩ := List.getElem?_eq_some_iff.mp hi
  obtain ⟨hj', rfl⟩ := List.getElem?_eq_some_iff.mp hj
  constructor
  · intro hlt
    by_contra hge
    rcases Nat.eq_or_lt_of_le (Nat.not_lt.mp hge) with rfl | hgt
    · exact lt_irrefl _ hlt
    · exact lt_asymm hlt (List.pairwise_iff_getElem.mp hseq j i hj' hi' hgt)
  · exact List.pairwise_iff_getElem.mp hseq i j hi' hj'

/-- So an entry has one place. -/
theorem place_unique (hseq : stops.Pairwise (·.stopSequence < ·.stopSequence)) {i j : Nat}
    {st : ShapeStop} (hi : stops[i]? = some st) (hj : stops[j]? = some st) : i = j := by
  rcases Nat.lt_trichotomy i j with hlt | heq | hgt
  · exact absurd ((sequence_lt_iff hseq hi hj).mpr hlt) (lt_irrefl _)
  · exact heq
  · exact absurd ((sequence_lt_iff hseq hj hi).mpr hgt) (lt_irrefl _)

/-- With more progress the upcoming stop is not an earlier one. -/
theorem pickUpcomingStop_mono (hseq : stops.Pairwise (·.stopSequence < ·.stopSequence))
    {progressM' : ℚ} (hle : progressM ≤ progressM') {i j : Nat} {candidate' : ShapeStop}
    (hpick : pickUpcomingStop stops progressM = some candidate) (hi : stops[i]? = some candidate)
    (hpick' : pickUpcomingStop stops progressM' = some candidate')
    (hj : stops[j]? = some candidate') : i ≤ j := by
  obtain ⟨before, after, hstops, hpassed, -⟩ := pickUpcomingStop_iff.mp hpick
  obtain ⟨before', after', hstops', -, hahead⟩ := pickUpcomingStop_iff.mp hpick'
  obtain rfl : i = before.length := place_unique hseq hi (by simp [hstops])
  obtain rfl : j = before'.length := place_unique hseq hj (by simp [hstops'])
  by_contra hlt
  have hlt := Nat.not_le.mp hlt
  have hmem : candidate' ∈ before := by
    rw [hstops, List.getElem?_append_left hlt] at hj
    exact List.mem_of_getElem? hj
  have hbehind : candidate'.progressM < progressM' := (hpassed candidate' hmem).trans_le hle
  obtain rfl : after' = [] := hahead.resolve_left (not_le.mpr hbehind)
  have hlen := congrArg List.length (hstops.symm.trans hstops')
  simp at hlen
  omega

end Upcoming

/-! ## Traces of ticks -/

/-- What a tick gives the oracle of its vehicle. -/
structure Observation where
  progressM : ℚ
  lat : ℚ
  lon : ℚ
  speed : Option ℚ := none

/-- The call of `tick_loop` for an observation, after the payload `prev`. -/
def statusAt (geo : Geo) (stops : List ShapeStop) (prev : Option StopStatus) (o : Observation) :
    StopStatus :=
  computeStopStatus geo o.progressM o.lat o.lon stops o.speed prev

/-- The payload of the last of the ticks; each call is given the payload before it, the first
none. -/
def report (geo : Geo) (stops : List ShapeStop) (ticks : List Observation) : Option StopStatus :=
  ticks.foldl (fun prev o => some (statusAt geo stops prev o)) none

/-- The payload names the stop. -/
def Names (r : StopStatus) (st : ShapeStop) : Prop :=
  r.currentStopSequence = some st.stopSequence ∧ r.stopId = some st.stopId

/-- The stop at place `i` of the list is picked at one of the ticks. -/
def PickedAt (stops : List ShapeStop) (ticks : List Observation) (i : Nat) : Prop :=
  ∃ o ∈ ticks, ∃ st, pickUpcomingStop stops o.progressM = some st ∧ stops[i]? = some st

section Reports

variable (geo : Geo) {stops : List ShapeStop}

theorem report_append (ticks : List Observation) (o : Observation) :
    report geo stops (ticks ++ [o]) = some (statusAt geo stops (report geo stops ticks) o) := by
  simp [report]

theorem pickedAt_append (ticks : List Observation) (o : Observation) (i : Nat) :
    PickedAt stops (ticks ++ [o]) i ↔ PickedAt stops ticks i ∨ PickedAt stops [o] i := by
  simp [PickedAt, or_and_right, exists_or]

theorem pickedAt_singleton {o : Observation} {st : ShapeStop}
    (hseq : stops.Pairwise (·.stopSequence < ·.stopSequence))
    (hpick : pickUpcomingStop stops o.progressM = some st) {i : Nat} (hi : stops[i]? = some st)
    (j : Nat) : PickedAt stops [o] j ↔ j = i := by
  constructor
  · rintro ⟨o', ho', st', hpick', hj⟩
    rw [List.mem_singleton.mp ho', hpick] at hpick'
    cases hpick'
    exact place_unique hseq hj hi
  · rintro rfl
    exact ⟨o, List.mem_singleton_self o, st, hpick, hi⟩

/-- A non-empty list has an upcoming stop, at some place. -/
theorem upcoming_place (hne : stops ≠ []) (progressM : ℚ) :
    ∃ (i : Nat) (st : ShapeStop), pickUpcomingStop stops progressM = some st ∧
      stops[i]? = some st := by
  obtain ⟨st, hpick⟩ := pickUpcomingStop_some progressM hne
  obtain ⟨i, hi⟩ := List.mem_iff_getElem?.mp (pickUpcomingStop_mem hpick)
  exact ⟨i, st, hpick, hi⟩

/-- Without a payload before it a call names the upcoming stop. -/
theorem statusAt_none_names {o : Observation} {st : ShapeStop}
    (hpick : pickUpcomingStop stops o.progressM = some st) :
    Names (statusAt geo stops none o) st :=
  computeStopStatus_names hpick

/-- A call after a payload of the list names the further one of its stop and the upcoming. -/
theorem statusAt_names (hseq : stops.Pairwise (·.stopSequence < ·.stopSequence))
    {prev : StopStatus} {o : Observation} {i j : Nat} {held upcoming : ShapeStop}
    (hprev : Names prev held) (hi : stops[i]? = some held)
    (hpick : pickUpcomingStop stops o.progressM = some upcoming)
    (hj : stops[j]? = some upcoming) :
    ∃ st, stops[max i j]? = some st ∧ Names (statusAt geo stops (some prev) o) st := by
  have hnames := @computeStopStatus_names geo o.progressM o.lat o.lon stops o.speed (some prev)
    upcoming hpick
  have hguard : guardSequence upcoming (some prev) =
      if upcoming.stopSequence < held.stopSequence then (held.stopSequence, held.stopId)
      else (upcoming.stopSequence, upcoming.stopId) := by
    obtain ⟨status, seq, stop⟩ := prev
    obtain ⟨rfl, rfl⟩ := hprev
    rfl
  rw [hguard] at hnames
  by_cases hlt : upcoming.stopSequence < held.stopSequence
  · rw [if_pos hlt] at hnames
    have hplace : j < i := (sequence_lt_iff hseq hj hi).mp hlt
    exact ⟨held, by rw [max_eq_left hplace.le]; exact hi, hnames⟩
  · rw [if_neg hlt] at hnames
    have hplace : ¬j < i := fun h => hlt ((sequence_lt_iff hseq hj hi).mpr h)
    exact ⟨upcoming, by rw [max_eq_right (Nat.not_lt.mp hplace)]; exact hj, hnames⟩

/-- The payload of a trace names the furthest of the stops picked in it. -/
theorem report_names (hne : stops ≠ []) (hseq : stops.Pairwise (·.stopSequence < ·.stopSequence))
    (ticks : List Observation) (hticks : ticks ≠ []) :
    ∃ (r : StopStatus) (i : Nat) (st : ShapeStop), report geo stops ticks = some r ∧
      IsGreatest {k | PickedAt stops ticks k} i ∧ stops[i]? = some st ∧ Names r st := by
  induction ticks using List.reverseRecOn with
  | nil => exact absurd rfl hticks
  | append_singleton ticks o ih =>
    obtain ⟨j, upcoming, hpick, hj⟩ := upcoming_place hne o.progressM
    have hone := pickedAt_singleton hseq hpick hj
    rw [report_append]
    by_cases hempty : ticks = []
    · subst hempty
      refine ⟨_, j, upcoming, rfl, ?_, hj, statusAt_none_names geo hpick⟩
      rw [List.nil_append]
      exact ⟨(hone j).mpr rfl, fun k hk => ((hone k).mp hk).le⟩
    · obtain ⟨prev, i, held, hprev, hgreatest, hi, hnames⟩ := ih hempty
      obtain ⟨st, hst, hstNames⟩ := statusAt_names geo hseq hnames hi hpick hj
      rw [hprev]
      refine ⟨_, max i j, st, rfl, ⟨?_, ?_⟩, hst, hstNames⟩
      · show PickedAt stops (ticks ++ [o]) (max i j)
        rw [pickedAt_append]
        rcases max_choice i j with hmax | hmax
        · rw [hmax]
          exact .inl hgreatest.1
        · rw [hmax]
          exact .inr ((hone j).mpr rfl)
      · intro k hk
        rcases (pickedAt_append ticks o k).mp hk with hk | hk
        · exact (hgreatest.2 hk).trans (le_max_left i j)
        · rw [(hone k).mp hk]
          exact le_max_right i j

/-- A later payload of a trace has no smaller sequence. -/
theorem report_sequence_mono (hne : stops ≠ [])
    (hseq : stops.Pairwise (·.stopSequence < ·.stopSequence)) (ticks more : List Observation)
    {r r' : StopStatus} (hr : report geo stops ticks = some r)
    (hr' : report geo stops (ticks ++ more) = some r') {m n : Int}
    (hm : r.currentStopSequence = some m) (hn : r'.currentStopSequence = some n) : m ≤ n := by
  have hticks : ticks ≠ [] := by
    intro hnil
    rw [hnil] at hr
    cases hr
  obtain ⟨r₁, i, st, hr₁, hgreatest, hi, hnames⟩ := report_names geo hne hseq ticks hticks
  obtain ⟨r₂, j, st', hr₂, hgreatest', hj, hnames'⟩ :=
    report_names geo hne hseq (ticks ++ more) (by simp [hticks])
  rw [hr₁] at hr
  rw [hr₂] at hr'
  cases hr
  cases hr'
  rw [hnames.1] at hm
  rw [hnames'.1] at hn
  cases hm
  cases hn
  have hle : i ≤ j := by
    obtain ⟨o, ho, hpicked⟩ := hgreatest.1
    exact hgreatest'.2 ⟨o, List.mem_append_left _ ho, hpicked⟩
  by_contra hlt
  have hback := (sequence_lt_iff hseq hj hi).mp (not_le.mp hlt)
  omega

/-- After ticks with no more progress than this one the guard holds nothing back. -/
theorem report_unguarded (hne : stops ≠ [])
    (hseq : stops.Pairwise (·.stopSequence < ·.stopSequence)) {ticks : List Observation}
    {o : Observation} (hmono : ∀ past ∈ ticks, past.progressM ≤ o.progressM) :
    statusAt geo stops (report geo stops ticks) o = statusAt geo stops none o := by
  by_cases hempty : ticks = []
  · subst hempty
    rfl
  obtain ⟨j, upcoming, hpick, hj⟩ := upcoming_place hne o.progressM
  obtain ⟨prev, i, held, hprev, hgreatest, hi, hnames⟩ :=
    report_names geo hne hseq ticks hempty
  have hle : i ≤ j := by
    obtain ⟨past, hpast, st, hpicked, hst⟩ := hgreatest.1
    exact pickUpcomingStop_mono hseq (hmono past hpast) hpicked hst hpick hj
  have hguard : guardSequence upcoming (some prev) = guardSequence upcoming none := by
    obtain ⟨status, seq, stop⟩ := prev
    obtain ⟨rfl, rfl⟩ := hnames
    have hahead : ¬upcoming.stopSequence < held.stopSequence := by
      intro hlt
      have hback := (sequence_lt_iff hseq hj hi).mp hlt
      omega
    show (if _ then _ else _) = _
    rw [if_neg hahead]
    rfl
  simp only [statusAt, computeStopStatus, hpick, hprev, hguard]

/-- On a list in sequence order the oracle reports the furthest of the stops it has picked, it
never goes back in sequence, and while the progress never decreases it reports the first stop at
or ahead of the vehicle, the last one once all are passed. -/
theorem report_furthest (geo : Geo) {stops : List ShapeStop} (hne : stops ≠ [])
    (hseq : stops.Pairwise (·.stopSequence < ·.stopSequence)) :
    (∀ ticks ≠ [], ∃ (r : StopStatus) (i : Nat) (st : ShapeStop),
        report geo stops ticks = some r ∧ IsGreatest {k | PickedAt stops ticks k} i ∧
        stops[i]? = some st ∧ Names r st) ∧
      (∀ ticks more r r', report geo stops ticks = some r →
        report geo stops (ticks ++ more) = some r' →
        ∀ m n, r.currentStopSequence = some m → r'.currentStopSequence = some n → m ≤ n) ∧
      ∀ ticks o, (ticks ++ [o]).Pairwise (·.progressM ≤ ·.progressM) →
        report geo stops (ticks ++ [o]) = some (statusAt geo stops none o) ∧
        ∃ before st after, stops = before ++ st :: after ∧
          (∀ st' ∈ before, st'.progressM < o.progressM) ∧
          (o.progressM ≤ st.progressM ∨ after = []) ∧ Names (statusAt geo stops none o) st := by
  refine ⟨report_names geo hne hseq, fun ticks more r r' hr hr' m n hm hn =>
    report_sequence_mono geo hne hseq ticks more hr hr' hm hn, fun ticks o hmono => ?_⟩
  constructor
  · rw [report_append]
    refine congrArg some (report_unguarded geo hne hseq fun past hpast => ?_)
    exact (List.pairwise_append.mp hmono).2.2 past hpast o (List.mem_singleton_self o)
  · obtain ⟨st, hpick⟩ := pickUpcomingStop_some o.progressM hne
    obtain ⟨before, after, hstops, hpassed, hahead⟩ := pickUpcomingStop_iff.mp hpick
    exact ⟨before, st, after, hstops, hpassed, hahead, statusAt_none_names geo hpick⟩

end Reports

/-- Stops at 0, 30 and 60 metres of a shape that goes north. -/
def northboundStops : List ShapeStop :=
  [⟨"s1", 1, 9.935, -84.053, 0⟩, ⟨"s2", 2, 9.935 + 30 / 111195, -84.053, 30⟩,
    ⟨"s3", 3, 9.935 + 60 / 111195, -84.053, 60⟩]

/-- A tick at the last stop, and one at the second after the vehicle was set back. -/
def setBackTicks : List Observation :=
  [⟨60, 9.935 + 60 / 111195, -84.053, some 0⟩, ⟨28, 9.935 + 30 / 111195, -84.053, some 0⟩]

theorem report_furthest_setBack : ∃ (r : StopStatus) (i : Nat) (st : ShapeStop),
    report meridianGeo northboundStops setBackTicks = some r ∧
      IsGreatest {k | PickedAt northboundStops setBackTicks k} i ∧
      northboundStops[i]? = some st ∧ Names r st :=
  (report_furthest meridianGeo (List.cons_ne_nil _ _) (by decide +kernel)).1 setBackTicks
    (List.cons_ne_nil _ _)

/-! ## The status -/

/-- The vehicle is seen within the radius of the stop and is not known to move. -/
def StandsAt (geo : Geo) (o : Observation) (st : ShapeStop) : Prop :=
  geo.haversineM o.lat o.lon st.lat st.lon ≤ stopRadiusM ∧
    ∀ v, o.speed = some v → v ≤ stationarySpeedMps

/-- The vehicle is seen within the wider radius of the stop, which is ahead of it. -/
def Approaches (geo : Geo) (o : Observation) (st : ShapeStop) : Prop :=
  geo.haversineM o.lat o.lon st.lat st.lon ≤ incomingAtRadiusM ∧ o.progressM < st.progressM

/-- What is asked of a payload: its status is true of a stop of the list with the id it names. -/
structure StatusFits (geo : Geo) (stops : List ShapeStop) (o : Observation) (r : StopStatus) :
    Prop where
  stopped : r.currentStatus = .stoppedAt → ∀ stopId, r.stopId = some stopId →
    ∃ st ∈ stops, st.stopId = stopId ∧ geo.haversineM o.lat o.lon st.lat st.lon ≤ stopRadiusM
  incoming : r.currentStatus = .incomingAt → ∀ stopId, r.stopId = some stopId →
    ∃ st ∈ stops, st.stopId = stopId ∧ Approaches geo o st

/-- The vehicle is back before a stop it has reported: the guard names the stop of the last payload
instead of the upcoming one. -/
def HeldBack (stops : List ShapeStop) (prev : Option StopStatus) (o : Observation)
    (candidate : ShapeStop) : Prop :=
  pickUpcomingStop stops o.progressM = some candidate ∧ (heldSequence candidate prev).isSome

/-- A vehicle that is held back does not stand at its upcoming stop, nor approach it, unless the
same goes for the stop of the last payload. -/
structure GuardFits (geo : Geo) (stops : List ShapeStop) (prev : Option StopStatus)
    (o : Observation) : Prop where
  stopped : ∀ candidate, HeldBack stops prev o candidate → StandsAt geo o candidate →
    ∃ st ∈ stops, st.stopId = heldStop candidate prev ∧
      geo.haversineM o.lat o.lon st.lat st.lon ≤ stopRadiusM
  incoming : ∀ candidate, HeldBack stops prev o candidate → ¬StandsAt geo o candidate →
    Approaches geo o candidate →
    ∃ st ∈ stops, st.stopId = heldStop candidate prev ∧ Approaches geo o st

section Status

variable (geo : Geo) {stops : List ShapeStop} {o : Observation} {candidate : ShapeStop}

theorem speed_all_iff : (o.speed.all fun v => decide (v ≤ stationarySpeedMps)) = true ↔
    ∀ v, o.speed = some v → v ≤ stationarySpeedMps := by
  cases o.speed <;> simp

/-- The status of a call with an upcoming stop. -/
theorem statusAt_status (prev : Option StopStatus)
    (hpick : pickUpcomingStop stops o.progressM = some candidate) :
    (statusAt geo stops prev o).currentStatus =
      radiusStatus o.progressM (geo.haversineM o.lat o.lon candidate.lat candidate.lon) candidate
        o.speed := by
  simp [statusAt, computeStopStatus, hpick]

theorem statusAt_stoppedAt_iff (prev : Option StopStatus)
    (hpick : pickUpcomingStop stops o.progressM = some candidate) :
    (statusAt geo stops prev o).currentStatus = .stoppedAt ↔ StandsAt geo o candidate := by
  rw [statusAt_status geo prev hpick, StandsAt, ← speed_all_iff]
  unfold radiusStatus
  split
  · rename_i h
    exact iff_of_true rfl h
  · rename_i h
    refine iff_of_false ?_ h
    split <;> exact CurrentStatus.noConfusion

theorem statusAt_incomingAt_iff (prev : Option StopStatus)
    (hpick : pickUpcomingStop stops o.progressM = some candidate) :
    (statusAt geo stops prev o).currentStatus = .incomingAt ↔
      ¬StandsAt geo o candidate ∧ Approaches geo o candidate := by
  rw [statusAt_status geo prev hpick, StandsAt, ← speed_all_iff]
  unfold radiusStatus Approaches
  split
  · rename_i h
    exact iff_of_false CurrentStatus.noConfusion fun hn => hn.1 h
  · rename_i h
    split
    · rename_i hnear
      exact iff_of_true rfl ⟨h, hnear⟩
    · rename_i hfar
      exact iff_of_false CurrentStatus.noConfusion fun hn => hfar hn.2

/-- Without an upcoming stop a vehicle is in transit. -/
theorem statusAt_nowhere (prev : Option StopStatus)
    (hpick : pickUpcomingStop stops o.progressM = none) :
    (statusAt geo stops prev o).currentStatus = .inTransitTo := by
  simp [statusAt, computeStopStatus, hpick, fallback]

/-- The stop of a call: the upcoming one, or the one the guard holds. -/
theorem statusAt_stopId (prev : Option StopStatus)
    (hpick : pickUpcomingStop stops o.progressM = some candidate) :
    (statusAt geo stops prev o).stopId =
      some (if (heldSequence candidate prev).isSome then heldStop candidate prev
        else candidate.stopId) := by
  have hnames := (@computeStopStatus_names geo o.progressM o.lat o.lon stops o.speed prev candidate
    hpick).2
  rw [guardSequence_eq] at hnames
  unfold statusAt
  rw [hnames]
  cases heldSequence candidate prev <;> rfl

/-- Without a held stop the guard has nothing to get wrong. -/
theorem guardFits_of_free {prev : Option StopStatus}
    (h : ∀ candidate, ¬HeldBack stops prev o candidate) : GuardFits geo stops prev o :=
  ⟨fun c hc => absurd hc (h c), fun c hc => absurd hc (h c)⟩

theorem statusAt_fits_iff (prev : Option StopStatus) :
    StatusFits geo stops o (statusAt geo stops prev o) ↔ GuardFits geo stops prev o := by
  cases hpick : pickUpcomingStop stops o.progressM with
  | none =>
    have hstatus : (statusAt geo stops prev o).currentStatus = .inTransitTo :=
      statusAt_nowhere geo prev hpick
    refine iff_of_true ⟨fun h => ?_, fun h => ?_⟩ (guardFits_of_free geo fun c hc => ?_)
    · rw [hstatus] at h
      cases h
    · rw [hstatus] at h
      cases h
    · rw [HeldBack, hpick] at hc
      cases hc.1
  | some candidate =>
    have hstopped := statusAt_stoppedAt_iff geo prev hpick
    have hincoming := statusAt_incomingAt_iff geo prev hpick
    have hstop := statusAt_stopId geo prev hpick
    have honly : ∀ c, HeldBack stops prev o c → c = candidate := by
      intro c hc
      exact Option.some.inj (hc.1.symm.trans hpick)
    by_cases hheld : (heldSequence candidate prev).isSome
    · rw [if_pos hheld] at hstop
      have hback : HeldBack stops prev o candidate := ⟨hpick, hheld⟩
      constructor
      · intro hfits
        refine ⟨fun c hc hstands => ?_, fun c hc hnot happroaches => ?_⟩
        · obtain rfl := honly c hc
          exact hfits.stopped (hstopped.mpr hstands) _ hstop
        · obtain rfl := honly c hc
          exact hfits.incoming (hincoming.mpr ⟨hnot, happroaches⟩) _ hstop
      · intro hguard
        refine ⟨fun h stopId hid => ?_, fun h stopId hid => ?_⟩
        · rw [hstop] at hid
          cases hid
          exact hguard.stopped candidate hback (hstopped.mp h)
        · rw [hstop] at hid
          cases hid
          obtain ⟨hnot, happroaches⟩ := hincoming.mp h
          exact hguard.incoming candidate hback hnot happroaches
    · -- the payload names the upcoming stop, which its status is about
      rw [if_neg hheld] at hstop
      have hmem := pickUpcomingStop_mem hpick
      refine iff_of_true ⟨fun h stopId hid => ?_, fun h stopId hid => ?_⟩
        (guardFits_of_free geo fun c hc => ?_)
      · rw [hstop] at hid
        cases hid
        exact ⟨candidate, hmem, rfl, (hstopped.mp h).1⟩
      · rw [hstop] at hid
        cases hid
        exact ⟨candidate, hmem, rfl, (hincoming.mp h).2⟩
      · obtain rfl := honly c hc
        exact hheld hc.2

/-- A vehicle that only goes forward gets a true status. -/
theorem statusAt_fits_forward (hseq : stops.Pairwise (·.stopSequence < ·.stopSequence))
    {past : List Observation} (hmono : ∀ o' ∈ past, o'.progressM ≤ o.progressM) :
    StatusFits geo stops o (statusAt geo stops (report geo stops past) o) := by
  rcases eq_or_ne stops [] with rfl | hne
  · refine (statusAt_fits_iff geo _).mpr (guardFits_of_free geo fun c hc => ?_)
    cases hc.1
  · rw [report_unguarded geo hne hseq hmono]
    refine (statusAt_fits_iff geo none).mpr (guardFits_of_free geo fun c hc => ?_)
    cases hc.2

end Status

/-- After any trace of ticks on a list of stops, the status of the next payload is true of the
stop it names if and only if the guard does not hold another stop against a vehicle that is at
its upcoming one. -/
theorem report_fits_iff (geo : Geo) (stops : List ShapeStop) (past : List Observation)
    (o : Observation) :
    StatusFits geo stops o (statusAt geo stops (report geo stops past) o) ↔
      GuardFits geo stops (report geo stops past) o :=
  statusAt_fits_iff geo _

/-- Set back from the last stop to the second, a vehicle is stopped at the last, which is 30 metres
away. -/
theorem held_stop_far : ¬∀ (geo : Geo) (stops : List ShapeStop) (past : List Observation)
    (o : Observation), StatusFits geo stops o (statusAt geo stops (report geo stops past) o) := by
  intro h
  have hfits := h meridianGeo northboundStops [⟨60, 9.935 + 60 / 111195, -84.053, some 0⟩]
    ⟨28, 9.935 + 30 / 111195, -84.053, some 0⟩
  obtain ⟨st, hst, hid, hnear⟩ := hfits.stopped (by decide +kernel) "s3" (by decide +kernel)
  have hfar : ∀ st ∈ northboundStops, st.stopId = "s3" →
      ¬meridianGeo.haversineM (9.935 + 30 / 111195) (-84.053) st.lat st.lon ≤ stopRadiusM := by
    decide +kernel
  exact hfar st hst hid hnear

end Compute

end DatabusSim
