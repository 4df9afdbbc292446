import DatabusSim.Lib.Dict

/-!
# Repeating timers under keys

A component runs at most one repeating timer for a key, and keeps its handle in a table. A timer
whose handle is lost would run on for good: the operations keep the table and the timers that run
in agreement (`Tidy`).
-/

/-- `running` are the timers that have been set and not cleared, with the keys they were set for. -/
structure Timers (κ : Type) where
  table : Dict κ Nat := Dict.empty
  running : List (Nat × κ) := []
  next : Nat := 0

namespace Timers

variable {κ : Type} [DecidableEq κ]

/-- A timer is set for `k`, unless it has one. -/
def start (t : Timers κ) (k : κ) : Timers κ :=
  if t.table.contains k then t
  else
    { table := t.table.set k t.next
      running := t.running ++ [(t.next, k)]
      next := t.next + 1 }

/-- The timer of `k` is cleared. -/
def stop (t : Timers κ) (k : κ) : Timers κ :=
  match t.table.get? k with
  | none => t
  | some id =>
      { t with
        table := t.table.erase k
        running := t.running.filter fun r => decide (r.1 ≠ id) }

/-- Every timer of the table is cleared. -/
def stopAll (t : Timers κ) : Timers κ :=
  { t with
    table := Dict.empty
    running := t.running.filter fun r => decide (r.1 ∉ t.table.values) }

/-- What runs is what the table has, one timer for each handle. -/
structure Tidy (t : Timers κ) : Prop where
  running (id k) : (id, k) ∈ t.running ↔ t.table.get? k = some id
  distinct : (t.running.map Prod.fst).Nodup
  fresh (id k) : (id, k) ∈ t.running → id < t.next

theorem tidy_empty : Tidy ({} : Timers κ) where
  running id k := by
    constructor
    · intro h
      cases h
    · intro h
      cases h
  distinct := List.nodup_nil
  fresh id k h := by cases h

variable {t : Timers κ}

theorem Tidy.own (h : Tidy t) {id : Nat} {k k' : κ} (hk : (id, k) ∈ t.running)
    (hk' : (id, k') ∈ t.running) : k = k' :=
  congrArg Prod.snd (List.inj_on_of_nodup_map h.distinct hk hk' rfl)

theorem Tidy.runs_iff (h : Tidy t) (k : κ) :
    (∃ id, (id, k) ∈ t.running) ↔ t.table.contains k = true := by
  unfold Dict.contains
  rw [Option.isSome_iff_exists]
  constructor
  · rintro ⟨id, hid⟩
    exact ⟨id, (h.running id k).mp hid⟩
  · rintro ⟨id, hid⟩
    exact ⟨id, (h.running id k).mpr hid⟩

theorem Tidy.running_ne_nil_iff (h : Tidy t) :
    t.running ≠ [] ↔ ∃ k, t.table.contains k = true := by
  constructor
  · intro hne
    obtain ⟨⟨id, k⟩, hmem⟩ := List.exists_mem_of_ne_nil _ hne
    exact ⟨k, (h.runs_iff k).mp ⟨id, hmem⟩⟩
  · rintro ⟨k, hk⟩ hnil
    obtain ⟨id, hid⟩ := (h.runs_iff k).mpr hk
    rw [hnil] at hid
    cases hid

/-! ## Start -/

theorem contains_start (t : Timers κ) (k j : κ) :
    (t.start k).table.contains j = (decide (j = k) || t.table.contains j) := by
  unfold start
  cases hk : t.table.contains k with
  | true =>
    rw [if_pos rfl]
    by_cases hj : j = k
    · simp [hj, hk]
    · simp [hj]
  | false =>
    rw [if_neg Bool.false_ne_true]
    exact Dict.contains_set t.table k j t.next

theorem Tidy.start (h : Tidy t) (k : κ) : Tidy (t.start k) := by
  unfold Timers.start
  cases hk : t.table.contains k with
  | true => exact h
  | false =>
    have hnone : t.table.get? k = none := by
      simpa [Dict.contains] using hk
    have hnew : ∀ j, (t.next, j) ∉ t.running := by
      intro j hj
      exact absurd (h.fresh _ _ hj) (Nat.lt_irrefl _)
    refine ⟨fun id j => ?_, ?_, fun id j hmem => ?_⟩
    · show (id, j) ∈ t.running ++ [(t.next, k)] ↔ (t.table.set k t.next).get? j = some id
      rw [List.mem_append, List.mem_singleton, h.running, Dict.get?_set]
      by_cases hj : j = k
      · subst hj
        rw [if_pos rfl, hnone]
        simp [eq_comm]
      · rw [if_neg hj]
        simp [hj]
    · show ((t.running ++ [(t.next, k)]).map Prod.fst).Nodup
      rw [List.map_append, List.map_singleton, List.nodup_append]
      refine ⟨h.distinct, List.nodup_singleton _, fun a ha b hb => ?_⟩
      obtain ⟨⟨id, j⟩, hmem, rfl⟩ := List.mem_map.mp ha
      rw [List.mem_singleton.mp hb]
      intro heq
      have heq : id = t.next := heq
      exact hnew j (heq ▸ hmem)
    · have hmem : (id, j) ∈ t.running ++ [(t.next, k)] := hmem
      show id < t.next + 1
      rcases List.mem_append.mp hmem with hmem | hmem
      · have := h.fresh id j hmem
        omega
      · cases List.mem_singleton.mp hmem
        omega

/-! ## Stop -/

theorem contains_stop (t : Timers κ) (k j : κ) :
    (t.stop k).table.contains j = (decide (j ≠ k) && t.table.contains j) := by
  unfold stop
  cases hk : t.table.get? k with
  | none =>
    by_cases hj : j = k
    · subst hj
      simp [Dict.contains, hk]
    · simp [hj]
  | some id =>
    show (t.table.erase k).contains j = _
    unfold Dict.contains
    rw [Dict.get?_erase]
    by_cases hj : j = k <;> simp [hj]

theorem Tidy.stop (h : Tidy t) (k : κ) : Tidy (t.stop k) := by
  unfold Timers.stop
  cases hk : t.table.get? k with
  | none => exact h
  | some id =>
    refine ⟨fun i j => ?_, ?_, fun i j hmem => ?_⟩
    · show (i, j) ∈ t.running.filter (fun r => decide (r.1 ≠ id)) ↔
        (t.table.erase k).get? j = some i
      rw [List.mem_filter, h.running, Dict.get?_erase]
      by_cases hj : j = k
      · subst hj
        rw [if_pos rfl, hk]
        constructor
        · rintro ⟨hget, hne⟩
          cases hget
          simp at hne
        · intro hget
          cases hget
      · rw [if_neg hj]
        constructor
        · exact And.left
        · intro hget
          refine ⟨hget, ?_⟩
          have hne : i ≠ id := by
            intro heq
            subst heq
            exact hj (h.own ((h.running i j).mpr hget) ((h.running i k).mpr hk))
          simp [hne]
    · exact h.distinct.sublist (List.filter_sublist.map Prod.fst)
    · exact h.fresh i j (List.mem_filter.mp hmem).1

/-- No timer is left behind. -/
theorem Tidy.running_stopAll (h : Tidy t) : t.stopAll.running = [] := by
  show t.running.filter (fun r => decide (r.1 ∉ t.table.values)) = []
  rw [List.filter_eq_nil_iff]
  rintro ⟨id, k⟩ hmem
  have hentry : (k, id) ∈ t.table.entries :=
    (Dict.lookupEntry_eq_some_iff t.table.nodup).mp ((h.running id k).mp hmem)
  have hvalue : id ∈ t.table.values := List.mem_map_of_mem (f := Prod.snd) hentry
  simpa using hvalue

theorem Tidy.stopAll (h : Tidy t) : Tidy t.stopAll := by
  have hrunning := h.running_stopAll
  refine ⟨fun id k => ?_, ?_, fun id k hmem => ?_⟩
  · rw [hrunning]
    constructor
    · intro hmem
      cases hmem
    · intro hget
      cases hget
  · rw [hrunning]
    exact List.nodup_nil
  · rw [hrunning] at hmem
    cases hmem

end Timers
