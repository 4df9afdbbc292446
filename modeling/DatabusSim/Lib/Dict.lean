import Mathlib.Data.List.Basic
import Mathlib.Data.List.Nodup
import Mathlib.Tactic.Common

/-!
# Insertion-ordered dictionaries

The entries of a dictionary in insertion order, no key twice. Writing a key
that is there keeps its position; a new key goes to the end; a key that is
removed and written again goes to the end.
-/

/-- A dictionary with its keys in insertion order. -/
structure Dict (κ α : Type) where
  entries : List (κ × α)
  nodup : (entries.map Prod.fst).Nodup

namespace Dict

variable {κ α : Type} [DecidableEq κ]

/-! ## Association lists -/

/-- The value at the first occurrence of `k`. -/
def lookupEntry (k : κ) : List (κ × α) → Option α
  | [] => none
  | (k', v) :: rest => if k' = k then some v else lookupEntry k rest

/-- Update the entry of `k`, or append one. -/
def setEntry (k : κ) (v : α) : List (κ × α) → List (κ × α)
  | [] => [(k, v)]
  | (k', v') :: rest => if k' = k then (k, v) :: rest else (k', v') :: setEntry k v rest

theorem keys_setEntry (k : κ) (v : α) (l : List (κ × α)) :
    (setEntry k v l).map Prod.fst =
      if k ∈ l.map Prod.fst then l.map Prod.fst else l.map Prod.fst ++ [k] := by
  induction l with
  | nil => simp [setEntry]
  | cons p rest ih =>
    obtain ⟨k', v'⟩ := p
    by_cases hk : k' = k
    · simp [setEntry, hk]
    · have hk' : ¬ k = k' := fun h => hk h.symm
      simp only [setEntry, if_neg hk, List.map_cons, ih, List.mem_cons, hk', false_or]
      split <;> rfl

theorem lookupEntry_setEntry (k j : κ) (v : α) (l : List (κ × α)) :
    lookupEntry j (setEntry k v l) = if j = k then some v else lookupEntry j l := by
  induction l with
  | nil =>
    by_cases h : j = k
    · simp [setEntry, lookupEntry, h]
    · simp [setEntry, lookupEntry, h, Ne.symm h]
  | cons p rest ih =>
    obtain ⟨k', v'⟩ := p
    by_cases hk : k' = k
    · subst hk
      by_cases h : j = k'
      · simp [setEntry, lookupEntry, h]
      · simp [setEntry, lookupEntry, h, Ne.symm h]
    · simp only [setEntry, if_neg hk, lookupEntry, ih]
      by_cases h : k' = j
      · have hj : ¬ j = k := fun h' => hk (h.trans h')
        simp [h, hj]
      · simp [h]

theorem lookupEntry_isSome_iff (k : κ) (l : List (κ × α)) :
    (lookupEntry k l).isSome ↔ k ∈ l.map Prod.fst := by
  induction l with
  | nil => simp [lookupEntry]
  | cons p rest ih =>
    obtain ⟨k', v'⟩ := p
    by_cases h : k' = k
    · simp [lookupEntry, h]
    · simp only [lookupEntry, if_neg h, ih, List.map_cons, List.mem_cons, Ne.symm h, false_or]

theorem lookupEntry_filter_ne (k j : κ) (l : List (κ × α)) :
    lookupEntry j (l.filter fun p => decide (p.1 ≠ k)) =
      if j = k then none else lookupEntry j l := by
  induction l with
  | nil => simp [lookupEntry]
  | cons p rest ih =>
    obtain ⟨k', v'⟩ := p
    by_cases hk : k' = k
    · subst hk
      simp only [List.filter_cons, ne_eq, not_true_eq_false, decide_false, Bool.false_eq_true,
        if_false, ih, lookupEntry]
      by_cases h : j = k'
      · simp [h]
      · simp [h, Ne.symm h]
    · simp only [List.filter_cons, ne_eq, hk, not_false_eq_true, decide_true, if_true,
        lookupEntry, ih]
      by_cases h : k' = j
      · have hj : ¬ j = k := fun h' => hk (h.trans h')
        simp [h, hj]
      · simp [h]

/-- Where no key comes twice, an entry is found by its key. -/
theorem lookupEntry_eq_some_iff {k : κ} {v : α} {l : List (κ × α)}
    (h : (l.map Prod.fst).Nodup) : lookupEntry k l = some v ↔ (k, v) ∈ l := by
  induction l with
  | nil => simp [lookupEntry]
  | cons p rest ih =>
    obtain ⟨k', v'⟩ := p
    rw [List.map_cons, List.nodup_cons] at h
    by_cases hk : k' = k
    · subst hk
      rw [lookupEntry, if_pos rfl, List.mem_cons]
      constructor
      · intro hv
        cases hv
        exact .inl rfl
      · rintro (hv | hv)
        · cases hv
          rfl
        · exact absurd (List.mem_map_of_mem hv) h.1
    · rw [lookupEntry, if_neg hk, ih h.2, List.mem_cons]
      constructor
      · exact .inr
      · rintro (hv | hv)
        · cases hv
          exact absurd rfl hk
        · exact hv

theorem setEntry_setEntry (k : κ) (v w : α) (l : List (κ × α)) :
    setEntry k w (setEntry k v l) = setEntry k w l := by
  induction l with
  | nil => simp [setEntry]
  | cons p rest ih =>
    obtain ⟨k', v'⟩ := p
    by_cases hk : k' = k
    · simp [setEntry, hk]
    · simp [setEntry, hk, ih]

/-- Writing the value that is there changes nothing. -/
theorem setEntry_of_lookup {k : κ} {v : α} {l : List (κ × α)} (h : lookupEntry k l = some v) :
    setEntry k v l = l := by
  induction l with
  | nil => cases h
  | cons p rest ih =>
    obtain ⟨k', v'⟩ := p
    by_cases hk : k' = k
    · rw [lookupEntry, if_pos hk] at h
      cases h
      rw [setEntry, if_pos hk, hk]
    · rw [lookupEntry, if_neg hk] at h
      rw [setEntry, if_neg hk, ih h]

/-! ## The operations -/

def empty : Dict κ α := ⟨[], List.nodup_nil⟩

def keys (d : Dict κ α) : List κ := d.entries.map Prod.fst

def values (d : Dict κ α) : List α := d.entries.map Prod.snd

/-- `d.get(k)`. -/
def get? (d : Dict κ α) (k : κ) : Option α := lookupEntry k d.entries

/-- `d.get(k, v)`. -/
def getD (d : Dict κ α) (k : κ) (v : α) : α := (d.get? k).getD v

/-- `k in d`. -/
def contains (d : Dict κ α) (k : κ) : Bool := (d.get? k).isSome

/-- `d[k] = v`. -/
def set (d : Dict κ α) (k : κ) (v : α) : Dict κ α where
  entries := setEntry k v d.entries
  nodup := by
    rw [keys_setEntry]
    split
    · exact d.nodup
    · rename_i h
      exact List.nodup_append.mpr ⟨d.nodup, List.nodup_singleton k, fun a ha b hb => by
        rw [List.mem_singleton.mp hb]
        exact fun he => h (he ▸ ha)⟩

/-- `d.pop(k, None)`. -/
def erase (d : Dict κ α) (k : κ) : Dict κ α where
  entries := d.entries.filter fun p => decide (p.1 ≠ k)
  nodup := d.nodup.sublist (List.filter_sublist.map Prod.fst)

/-- The dictionary of the pairs, the last value of a key winning. -/
def ofList (l : List (κ × α)) : Dict κ α := l.foldl (fun d p => d.set p.1 p.2) empty

@[simp] theorem get?_empty (k : κ) : (empty : Dict κ α).get? k = none := rfl

theorem get?_set (d : Dict κ α) (k j : κ) (v : α) :
    (d.set k v).get? j = if j = k then some v else d.get? j :=
  lookupEntry_setEntry k j v d.entries

@[simp] theorem get?_set_self (d : Dict κ α) (k : κ) (v : α) : (d.set k v).get? k = some v := by
  rw [get?_set, if_pos rfl]

theorem get?_set_ne (d : Dict κ α) {k j : κ} (v : α) (h : j ≠ k) :
    (d.set k v).get? j = d.get? j := by
  rw [get?_set, if_neg h]

theorem get?_erase (d : Dict κ α) (k j : κ) :
    (d.erase k).get? j = if j = k then none else d.get? j :=
  lookupEntry_filter_ne k j d.entries

theorem getD_set (d : Dict κ α) (k j : κ) (v w : α) :
    (d.set k v).getD j w = if j = k then v else d.getD j w := by
  unfold getD
  rw [get?_set]
  split <;> rfl

theorem mem_keys_iff (d : Dict κ α) (k : κ) : k ∈ d.keys ↔ (d.get? k).isSome :=
  (lookupEntry_isSome_iff k d.entries).symm

omit [DecidableEq κ] in
theorem keys_nodup (d : Dict κ α) : d.keys.Nodup := d.nodup

/-- Writing a key that is there keeps the keys and their order. -/
theorem keys_set_of_mem (d : Dict κ α) {k : κ} (v : α) (h : (d.get? k).isSome) :
    (d.set k v).keys = d.keys := by
  show (setEntry k v d.entries).map Prod.fst = _
  rw [keys_setEntry, if_pos ((lookupEntry_isSome_iff k d.entries).mp h)]
  rfl

/-- What a dictionary of pairs gives for a key stands in the list with it. -/
theorem mem_of_get?_ofList {l : List (κ × α)} {k : κ} {v : α}
    (h : (ofList l).get? k = some v) : (k, v) ∈ l := by
  have hfold : ∀ (l : List (κ × α)) (d : Dict κ α),
      (l.foldl (fun d p => d.set p.1 p.2) d).get? k = some v → (k, v) ∈ l ∨ d.get? k = some v := by
    intro l
    induction l with
    | nil => exact fun d hd => .inr hd
    | cons p rest ih =>
      intro d hd
      rcases ih (d.set p.1 p.2) hd with hmem | hset
      · exact .inl (List.mem_cons_of_mem p hmem)
      · rw [get?_set] at hset
        split at hset
        · rename_i hk
          cases hset
          rw [hk]
          exact .inl List.mem_cons_self
        · exact .inr hset
  rcases hfold l empty h with hmem | hempty
  · exact hmem
  · cases hempty

/-! ## First occurrences -/

/-- The elements of a list, without those whose key an earlier one has. -/
def firstBy (key : α → κ) : List α → List α
  | [] => []
  | a :: l => a :: (firstBy key l).filter fun b => decide (key b ≠ key a)

/-- The entries whose keys pass a test. -/
def restrict (p : κ → Bool) (d : Dict κ α) : Dict κ α where
  entries := d.entries.filter fun e => p e.1
  nodup := d.nodup.sublist (List.filter_sublist.map Prod.fst)

theorem get?_restrict (p : κ → Bool) (d : Dict κ α) (j : κ) :
    (d.restrict p).get? j = if p j then d.get? j else none := by
  show lookupEntry j (d.entries.filter fun e => p e.1) =
    if p j then lookupEntry j d.entries else none
  induction d.entries with
  | nil => simp [lookupEntry]
  | cons e rest ih =>
    obtain ⟨k, v⟩ := e
    by_cases hk : k = j
    · subst hk
      by_cases hp : p k = true
      · simp [hp, lookupEntry]
      · simp [hp, ih]
    · by_cases hp : p k = true
      · simp [hp, hk, lookupEntry, ih]
      · simp [hp, hk, lookupEntry, ih]

/-- `if k not in d: d[k] = v`. -/
def setAbsent (d : Dict κ α) (k : κ) (v : α) : Dict κ α :=
  if d.contains k then d else d.set k v

theorem contains_set (d : Dict κ α) (k j : κ) (v : α) :
    (d.set k v).contains j = (decide (j = k) || d.contains j) := by
  unfold contains
  rw [get?_set]
  by_cases h : j = k <;> simp [h]

theorem setEntry_of_absent {k : κ} {v : α} {l : List (κ × α)}
    (h : (lookupEntry k l).isSome = false) : setEntry k v l = l ++ [(k, v)] := by
  induction l with
  | nil => rfl
  | cons p rest ih =>
    obtain ⟨k', v'⟩ := p
    by_cases hk : k' = k
    · simp [lookupEntry, hk] at h
    · rw [lookupEntry, if_neg hk] at h
      rw [setEntry, if_neg hk, ih h, List.cons_append]

/-- A new key goes to the end. -/
theorem values_set_of_absent {d : Dict κ α} {k : κ} {v : α} (h : d.contains k = false) :
    (d.set k v).values = d.values ++ [v] := by
  show (setEntry k v d.entries).map Prod.snd = _
  rw [setEntry_of_absent h, List.map_append]
  rfl

/-- Elements set where their key is absent are kept at their first occurrence. -/
theorem values_foldl_setAbsent (key : α → κ) (l : List α) (d : Dict κ α) :
    (l.foldl (fun d a => d.setAbsent (key a) a) d).values =
      d.values ++ (firstBy key l).filter fun a => !d.contains (key a) := by
  induction l generalizing d with
  | nil => simp [firstBy]
  | cons a l ih =>
    rw [List.foldl_cons, ih, firstBy]
    cases h : d.contains (key a) with
    | true =>
      have hset : d.setAbsent (key a) a = d := by rw [setAbsent, if_pos h]
      have hskip : ∀ b, (!d.contains (key b) && decide (key b ≠ key a)) = !d.contains (key b) := by
        intro b
        by_cases hb : key b = key a
        · simp [hb, h]
        · simp [hb]
      rw [hset, List.filter_cons_of_neg (by simp [h]), List.filter_filter]
      simp only [hskip]
    | false =>
      have hset : d.setAbsent (key a) a = d.set (key a) a := by rw [setAbsent, h]; rfl
      have hsplit : ∀ b, (!(d.set (key a) a).contains (key b)) =
          (!d.contains (key b) && decide (key b ≠ key a)) := by
        intro b
        rw [contains_set]
        by_cases hb : key b = key a <;> simp [hb]
      rw [hset, values_set_of_absent h, List.filter_cons_of_pos (by simp [h]), List.filter_filter,
        List.append_assoc, List.singleton_append]
      simp only [hsplit]

end Dict
