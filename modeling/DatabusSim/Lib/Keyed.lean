import Mathlib.Data.List.Nodup
import Mathlib.Tactic.Common

/-!
# Operations that each concern one key

A state holds a part for each key, and an operation for a key moves that part alone. Such
operations do not interfere: after one for each of several keys, every one of these has been moved
once (`Local.foldl`).
-/

namespace Keyed

variable {σ κ α : Type*} {view : σ → κ → α} {f : σ → κ → σ} {g : κ → α → α}

/-- The operation for `k` moves the part of `k` by `g k`, and leaves the others alone. -/
structure Local (view : σ → κ → α) (f : σ → κ → σ) (g : κ → α → α) : Prop where
  own (s k) : view (f s k) k = g k (view s k)
  other (s k j) : j ≠ k → view (f s k) j = view s j

theorem Local.foldl_of_not_mem (h : Local view f g) {l : List κ} {j : κ} (hj : j ∉ l) (s : σ) :
    view (l.foldl f s) j = view s j := by
  induction l generalizing s with
  | nil => rfl
  | cons k l ih =>
    rw [List.mem_cons, not_or] at hj
    rw [List.foldl_cons, ih hj.2, h.other s k j hj.1]

theorem Local.foldl_of_mem (h : Local view f g) {l : List κ} (hl : l.Nodup) {j : κ} (hj : j ∈ l)
    (s : σ) : view (l.foldl f s) j = g j (view s j) := by
  induction l generalizing s with
  | nil => cases hj
  | cons k l ih =>
    rw [List.nodup_cons] at hl
    rw [List.foldl_cons]
    rcases List.mem_cons.mp hj with rfl | hj
    · rw [h.foldl_of_not_mem hl.1, h.own]
    · have hne : j ≠ k := fun heq => hl.1 (heq ▸ hj)
      rw [ih hl.2 hj, h.other s k j hne]

end Keyed
