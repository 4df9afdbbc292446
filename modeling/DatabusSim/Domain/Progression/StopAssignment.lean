import DatabusSim.Lib.ForwardPath
import DatabusSim.Python
import DatabusSim.Domain.Progression.Shapes

/-!
# The stop assignment is optimal and monotone

Each row of the table merges the row above it into the costs of its stop, so the
segments that the back pointers give are a cheapest forward path; the clamp is
the running maximum of the progress read off at them.
-/

namespace DatabusSim

namespace Progression

open ForwardPath

/-! ## The clamp -/

section Clamp

variable {α : Type} [LinearOrder α]

/-- Each entry of `ys` is the greatest of the entries of `xs` up to there. -/
def RunningMax (xs ys : List α) : Prop :=
  ys.length = xs.length ∧
    ∀ k y, ys[k]? = some y → IsGreatest {x | x ∈ xs.take (k + 1)} y

theorem RunningMax.nondecreasing {xs ys : List α} (h : RunningMax xs ys) :
    ys.Pairwise (· ≤ ·) := by
  rw [List.pairwise_iff_getElem]
  intro i j hi hj hij
  have hle := h.2 i _ (List.getElem?_eq_getElem hi)
  have hge := h.2 j _ (List.getElem?_eq_getElem hj)
  exact hge.2 ((List.take_prefix_take_left (by omega)).subset hle.1)

theorem clampFrom_length (prev : α) (progress : List α) :
    (clampFrom prev progress).length = progress.length := by
  induction progress generalizing prev with
  | nil => rfl
  | cons p progress ih =>
    rw [clampFrom]
    split_ifs <;> simp [ih]

/-- By induction on the progress still to be clamped; `prev` is the greatest so far. -/
theorem clampFrom_greatest (prev : α) (progress : List α) (k : Nat) (y : α)
    (hy : (clampFrom prev progress)[k]? = some y) :
    IsGreatest {x | x = prev ∨ x ∈ progress.take (k + 1)} y := by
  induction progress generalizing prev k with
  | nil => simp [clampFrom] at hy
  | cons p progress ih =>
    by_cases hlt : p < prev
    · rw [clampFrom, if_pos hlt] at hy
      cases k with
      | zero =>
        obtain rfl : prev = y := by simpa using hy
        refine ⟨.inl rfl, fun x hx => ?_⟩
        rcases hx with rfl | hx
        · exact le_rfl
        · exact (List.mem_singleton.mp hx).trans_le hlt.le
      | succ k =>
        obtain ⟨hmem, hle⟩ := ih prev k hy
        refine ⟨hmem.imp_right (List.mem_cons_of_mem _), fun x hx => ?_⟩
        rcases hx with rfl | hx
        · exact hle (.inl rfl)
        · rcases List.mem_cons.mp hx with rfl | hx
          · exact hlt.le.trans (hle (.inl rfl))
          · exact hle (.inr hx)
    · rw [clampFrom, if_neg hlt] at hy
      have hle_p : prev ≤ p := not_lt.mp hlt
      cases k with
      | zero =>
        obtain rfl : p = y := by simpa using hy
        refine ⟨.inr List.mem_cons_self, fun x hx => ?_⟩
        rcases hx with rfl | hx
        · exact hle_p
        · exact (List.mem_singleton.mp hx).le
      | succ k =>
        obtain ⟨hmem, hle⟩ := ih p k hy
        refine ⟨.inr (List.mem_cons.mpr hmem), fun x hx => ?_⟩
        rcases hx with rfl | hx
        · exact hle_p.trans (hle (.inl rfl))
        · exact hle (List.mem_cons.mp hx)

theorem clamp_runningMax (progress : List α) : RunningMax progress (clamp progress) := by
  match progress with
  | [] => exact ⟨rfl, fun k y hy => by simp [clamp] at hy⟩
  | p :: progress =>
    -- the first entry is clamped to itself
    have hclamp : clamp (p :: progress) = clampFrom p (p :: progress) := by
      rw [clampFrom, if_neg (lt_irrefl p), clamp]
    rw [hclamp]
    refine ⟨clampFrom_length p _, fun k y hy => ?_⟩
    obtain ⟨hmem, hle⟩ := clampFrom_greatest p (p :: progress) k y hy
    refine ⟨?_, fun x hx => hle (.inr hx)⟩
    rcases hmem with rfl | hmem
    · exact List.mem_cons_self
    · exact hmem

end Clamp

variable {α : Type} [Field α] [LinearOrder α]

/-! ## The matrices -/

/-- The matrices have a row for each stop and a column for each segment. -/
theorem projectAll_shape (m : MathFns α) {stopRows : List (StopRow α)}
    {segs : List (PolyPoint α × PolyPoint α)} {table : List (List (α × α))}
    (h : projectAll m stopRows segs = .ok table) :
    table.length = stopRows.length ∧ ∀ row ∈ table, row.length = segs.length := by
  have hrows := mapM_ok h
  refine ⟨hrows.length_eq.symm, fun row hrow => ?_⟩
  obtain ⟨k, hk, rfl⟩ := List.getElem_of_mem hrow
  have hproj := hrows.get (by rwa [hrows.length_eq]) hk
  exact (mapM_ok hproj).length_eq.symm

/-- The progress read off for a stop is that of its segment. -/
theorem readOff_entry {β : Type} [Field β] {numSegs : Nat} {pos : List (List β)}
    (hrows : ∀ row ∈ pos, row.length = numSegs) {segs : List Nat}
    (hsegs : ∀ j ∈ segs, j < numSegs) {k j : Nat} {row : List β}
    (hrow : pos[k]? = some row) (hj : segs[k]? = some j) :
    (readOff pos segs)[k]? = row[j]? := by
  have hlt : j < row.length := by
    rw [hrows row (List.mem_of_getElem? hrow)]
    exact hsegs j (List.mem_of_getElem? hj)
  simp [readOff, List.getElem?_zipWith, hrow, hj, hlt]

/-! ## A row of the table -/

/-- `prefix_min` and `prefix_arg` once the loop has passed `j` entries of `row`. -/
def PrefixMin (row : List (WithTop α)) (j : Nat) (prefixMin : WithTop α) (prefixArg : Nat) :
    Prop :=
  (∀ i < j, prefixMin ≤ row.getD i 0) ∧
    if j = 0 then prefixMin = ⊤ ∧ prefixArg = 0
    else prefixArg < j ∧ row.getD prefixArg 0 = prefixMin

theorem prefixMin_start (row : List (WithTop α)) : PrefixMin row 0 ⊤ 0 :=
  ⟨fun _ h => absurd h (Nat.not_lt_zero _), by simp⟩

variable {row : List (WithTop α)} {j : Nat} {prefixMin : WithTop α} {prefixArg : Nat}

theorem PrefixMin.lower (h : PrefixMin row j prefixMin prefixArg)
    (hlt : row.getD j 0 < prefixMin) : PrefixMin row (j + 1) (row.getD j 0) j := by
  refine ⟨fun i hi => ?_, by simp⟩
  rcases Nat.lt_succ_iff_lt_or_eq.mp hi with hi | rfl
  · exact hlt.le.trans (h.1 i hi)
  · exact le_rfl

theorem PrefixMin.keep (h : PrefixMin row j prefixMin prefixArg)
    (hle : prefixMin ≤ row.getD j 0) : PrefixMin row (j + 1) prefixMin prefixArg := by
  obtain ⟨hmin, harg⟩ := h
  refine ⟨fun i hi => ?_, ?_⟩
  · rcases Nat.lt_succ_iff_lt_or_eq.mp hi with hi | rfl
    · exact hmin i hi
    · exact hle
  · rw [if_neg (Nat.succ_ne_zero j)]
    split_ifs at harg with hj
    · -- an infinite first entry does not lower the minimum, and is one all the same
      obtain ⟨rfl, rfl⟩ := harg
      subst hj
      exact ⟨Nat.zero_lt_one, top_le_iff.mp hle⟩
    · exact ⟨by omega, harg.2⟩

/-- Entry `i` of what the loop has still to write. -/
theorem fillRow_entry (rest : List (WithTop α)) (cost : List α) (hlen : cost.length = rest.length)
    (hrest : row.drop j = rest) (h : PrefixMin row j prefixMin prefixArg) (i : Nat)
    (hi : i < rest.length) :
    ∃ pm arg, PrefixMin row (j + i + 1) pm arg ∧
      (fillRow rest cost j prefixMin prefixArg)[i]? =
        some (((cost.getD i 0 : α) : WithTop α) + pm, arg) := by
  induction rest generalizing cost j prefixMin prefixArg i with
  | nil => exact absurd hi (Nat.not_lt_zero i)
  | cons d rest ih =>
    match cost, hlen with
    | c :: cost, hlen =>
      have hd : row.getD j 0 = d := by
        have hj := congrArg List.head? hrest
        rw [List.head?_drop] at hj
        simp [List.getD_eq_getElem?_getD, hj]
      have hdrop : row.drop (j + 1) = rest := by
        rw [← List.drop_drop, hrest]
        rfl
      have hcost : cost.length = rest.length := Nat.succ.inj hlen
      subst hd
      by_cases hlt : row.getD j 0 < prefixMin
      · rw [fillRow, if_pos hlt]
        match i, hi with
        | 0, _ => exact ⟨_, _, h.lower hlt, rfl⟩
        | i + 1, hi =>
          obtain ⟨pm, arg, hpm, hget⟩ :=
            ih cost hcost hdrop (h.lower hlt) i (Nat.lt_of_succ_lt_succ hi)
          exact ⟨pm, arg, by rwa [show j + (i + 1) = j + 1 + i by omega], hget⟩
      · rw [fillRow, if_neg hlt]
        match i, hi with
        | 0, _ => exact ⟨_, _, h.keep (not_lt.mp hlt), rfl⟩
        | i + 1, hi =>
          obtain ⟨pm, arg, hpm, hget⟩ :=
            ih cost hcost hdrop (h.keep (not_lt.mp hlt)) i (Nat.lt_of_succ_lt_succ hi)
          exact ⟨pm, arg, by rwa [show j + (i + 1) = j + 1 + i by omega], hget⟩

theorem fillRow_length (prev : List (WithTop α)) (cost : List α) (j : Nat)
    (prefixMin : WithTop α) (prefixArg : Nat) (hlen : cost.length = prev.length) :
    (fillRow prev cost j prefixMin prefixArg).length = prev.length := by
  induction prev generalizing cost j prefixMin prefixArg with
  | nil => simp [fillRow]
  | cons d prev ih =>
    match cost, hlen with
    | c :: cost, hlen =>
      have hcost : cost.length = prev.length := Nat.succ.inj hlen
      rw [fillRow]
      split_ifs <;> simp [ih, hcost]

variable {numSegs : Nat}

/-- A row merges the row above it into the costs of its stop. -/
theorem fillRow_relaxes (prev : List (WithTop α)) (cost : List α)
    (hprev : prev.length = numSegs) (hcost : cost.length = numSegs) :
    Relaxes numSegs prev (cost.map WithTop.some) ((fillRow prev cost 0 ⊤ 0).map Prod.fst)
      (fun j => ((fillRow prev cost 0 ⊤ 0).map Prod.snd).getD j 0) := by
  intro j hj
  obtain ⟨pm, arg, ⟨hmin, harg⟩, hget⟩ :=
    fillRow_entry prev cost (hcost.trans hprev.symm) List.drop_zero (prefixMin_start prev) j
      (hj.trans_eq hprev.symm)
  rw [Nat.zero_add] at hmin harg
  rw [if_neg (Nat.succ_ne_zero j)] at harg
  obtain ⟨hlt, rfl⟩ := harg
  have hback : ((fillRow prev cost 0 ⊤ 0).map Prod.snd).getD j 0 = arg := by
    simp [List.getD_eq_getElem?_getD, hget]
  have hnext : (cost.map WithTop.some).getD j 0 = ((cost.getD j 0 : α) : WithTop α) := by
    rw [← List.getD_map cost 0 WithTop.some]
    rfl
  simp only [hback]
  refine ⟨Nat.le_of_lt_succ hlt, ?_, fun i hi => hmin i (Nat.lt_succ_of_le hi)⟩
  rw [hnext]
  simp [List.getD_eq_getElem?_getD, hget]

/-! ## The backtracking -/

theorem bestSegment_least (hpos : 0 < numSegs) (dp : List (WithTop α)) :
    bestSegment numSegs dp < numSegs ∧
      ∀ i < numSegs, dp.getD (bestSegment numSegs dp) 0 ≤ dp.getD i 0 := by
  unfold bestSegment
  cases hbest : (List.range numSegs).argmin fun j => dp.getD j 0 with
  | none =>
    rw [List.argmin_eq_none, List.range_eq_nil] at hbest
    omega
  | some best =>
    refine ⟨List.mem_range.mp (List.argmin_mem hbest), fun i hi => ?_⟩
    exact List.le_of_mem_argmin (List.mem_range.mpr hi) hbest

theorem lastRow_cons {β : Type} (dp : List (WithTop β)) (row : List (WithTop β × Nat))
    (rows : List (List (WithTop β × Nat))) :
    lastRow dp (row :: rows) = lastRow (row.map Prod.fst) rows := by
  cases rows with
  | nil => rfl
  | cons r rows =>
    cases hlast : (r :: rows).getLast? with
    | none => simp at hlast
    | some last => simp [lastRow, hlast]

theorem backtrack_cons {β : Type} (row : List (WithTop β × Nat))
    (rows : List (List (WithTop β × Nat))) (bestJ : Nat) : backtrack (row :: rows) bestJ =
      (row.map Prod.snd).getD ((backtrack rows bestJ).headD 0) 0 :: backtrack rows bestJ := rfl

variable [IsOrderedAddMonoid α]

/-- By induction on the rows: the first row is the merged layer of the ones below
it, and its back pointer extends their cheapest path. -/
theorem backtrack_cheapest (hpos : 0 < numSegs) (dp : List (WithTop α)) (cost : List (List α))
    (hdp : dp.length = numSegs) (hcost : ∀ c ∈ cost, c.length = numSegs) :
    Cheapest numSegs (dp :: cost.map (List.map WithTop.some))
      (backtrack (fillRows dp cost) (bestSegment numSegs (lastRow dp (fillRows dp cost)))) := by
  induction cost generalizing dp with
  | nil =>
    obtain ⟨hlt, hle⟩ := bestSegment_least hpos dp
    exact cheapest_single hlt hle
  | cons c cost ih =>
    obtain ⟨hc, hcost⟩ := List.forall_mem_cons.mp hcost
    have hrow : ((fillRow dp c 0 ⊤ 0).map Prod.fst).length = numSegs := by
      rw [List.length_map, fillRow_length dp c 0 ⊤ 0 (hc.trans hdp.symm), hdp]
    have hbelow := ih _ hrow hcost
    rw [fillRows, lastRow_cons, backtrack_cons]
    generalize backtrack (fillRows ((fillRow dp c 0 ⊤ 0).map Prod.fst) cost) _ = segs at hbelow ⊢
    match segs, hbelow with
    | [], hbelow => cases hbelow.forward.length_eq
    | j :: segs, hbelow => exact (fillRow_relaxes dp c hdp hc).cheapest hbelow

/-- The chosen segments are a forward path, and none is cheaper. -/
theorem chooseSegments_cheapest (hpos : 0 < numSegs) {cost : List (List α)} (hne : cost ≠ [])
    (hcost : ∀ c ∈ cost, c.length = numSegs) :
    Cheapest numSegs cost (chooseSegments numSegs cost) := by
  match cost, hne with
  | c :: cost, _ =>
    obtain ⟨hc, hcost⟩ := List.forall_mem_cons.mp hcost
    have hbest := backtrack_cheapest hpos (c.map WithTop.some) cost
      (by rw [List.length_map, hc]) hcost
    have hlen : (c.map WithTop.some :: cost.map (List.map WithTop.some)).length =
        (c :: cost).length := by simp
    constructor
    · rw [← hlen]
      exact hbest.forward
    · -- the costs of the table are those of the matrix
      intro s hs
      have hle := hbest.le_cost s (by rwa [hlen])
      have hcoe : ∀ s, pathCost (c.map WithTop.some :: cost.map (List.map WithTop.some)) s =
          ((pathCost (c :: cost) s : α) : WithTop α) :=
        pathCost_map (WithTop.addHom : α →+ WithTop α) (c :: cost)
      rw [hcoe, hcoe, WithTop.coe_le_coe] at hle
      exact hle

/-! ## The assignment -/

/-- `assign_stops_monotonic` chooses the cheapest forward path through the cost
matrix and returns the running maximum of the progress there. -/
theorem stops_assigned_optimally (hpos : 1 ≤ numSegs) (cost pos : List (List α))
    (hstops : 1 ≤ cost.length) (hcost : ∀ row ∈ cost, row.length = numSegs)
    (hlen : pos.length = cost.length) (hrows : ∀ row ∈ pos, row.length = numSegs) :
    Forward cost.length numSegs (chooseSegments numSegs cost) ∧
      IsLeast {total | ∃ segs, Forward cost.length numSegs segs ∧ pathCost cost segs = total}
        (pathCost cost (chooseSegments numSegs cost)) ∧
      (∀ (k j : Nat) (row : List α), pos[k]? = some row →
        (chooseSegments numSegs cost)[k]? = some j →
        (readOff pos (chooseSegments numSegs cost))[k]? = row[j]?) ∧
      RunningMax (readOff pos (chooseSegments numSegs cost))
        (assignFromMatrices numSegs cost pos) ∧
      (assignFromMatrices numSegs cost pos).length = cost.length ∧
      (assignFromMatrices numSegs cost pos).Pairwise (· ≤ ·) := by
  obtain ⟨hforward, hleast⟩ :=
    chooseSegments_cheapest hpos (List.length_pos_iff.mp hstops) hcost
  have hmax := clamp_runningMax (readOff pos (chooseSegments numSegs cost))
  refine ⟨hforward, ⟨⟨_, hforward, rfl⟩, ?_⟩, ?_, hmax, ?_, hmax.nondecreasing⟩
  · rintro _ ⟨segs, hsegs, rfl⟩
    exact hleast segs hsegs
  · intro k j row hrow hj
    exact readOff_entry hrows hforward.lt_width hrow hj
  · calc (assignFromMatrices numSegs cost pos).length
        = (readOff pos (chooseSegments numSegs cost)).length := hmax.1
      _ = cost.length := by simp [readOff, hlen, hforward.length_eq]

/-- A shape that comes back on itself: the second stop is nearest to segment 0, which
is behind the first one's. -/
def loopCost : List (List ℚ) := [[5, 1, 2], [0, 4, 3]]

theorem stops_assigned_optimally_loop :
    IsLeast {total | ∃ segs, Forward 2 3 segs ∧ pathCost loopCost segs = total}
      (pathCost loopCost (chooseSegments 3 loopCost)) :=
  (stops_assigned_optimally (by decide) loopCost [[0, 10, 20], [0, 10, 20]] (by decide)
    (by simp [loopCost]) rfl (by simp)).2.1

example : chooseSegments 3 loopCost = [1, 2] := by decide +kernel

variable (m : MathFns α) {stopRows : List (StopRow α)} {polyline : List (PolyPoint α)}

/-- Whatever the polyline, each stop gets a progress and none is below the one
before it. -/
theorem assignStopsMonotonic_nondecreasing {progress : List α}
    (h : assignStopsMonotonic m stopRows polyline = .ok progress) :
    progress.length = stopRows.length ∧ progress.Pairwise (· ≤ ·) := by
  unfold assignStopsMonotonic at h
  by_cases hempty : stopRows.isEmpty
  · rw [if_pos hempty] at h
    cases h
    simp [List.isEmpty_iff.mp hempty]
  rw [if_neg hempty] at h
  by_cases hsegs : polyline.length - 1 = 0
  · simp only [hsegs, if_true] at h
    cases h
    refine ⟨List.length_replicate, ?_⟩
    rw [List.pairwise_replicate]
    exact .inr le_rfl
  · simp only [hsegs, if_false] at h
    obtain ⟨table, htable, h⟩ := bind_ok.mp h
    cases h
    obtain ⟨hlen, hwidth⟩ := projectAll_shape m htable
    rw [segments_length] at hwidth
    have hcost : ∀ row ∈ table.map (List.map Prod.snd), row.length = polyline.length - 1 := by
      simpa using hwidth
    have hne : table.map (List.map Prod.snd) ≠ [] := by
      simpa [← List.length_eq_zero_iff, hlen] using hempty
    have hforward := (chooseSegments_cheapest (Nat.pos_of_ne_zero hsegs) hne hcost).forward
    have hmax := clamp_runningMax (readOff (table.map (List.map Prod.fst))
      (chooseSegments (polyline.length - 1) (table.map (List.map Prod.snd))))
    refine ⟨?_, hmax.nondecreasing⟩
    rw [assignFromMatrices, hmax.1]
    simp [readOff, hforward.length_eq, hlen]

end Progression

end DatabusSim
