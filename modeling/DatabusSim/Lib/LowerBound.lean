import Mathlib.Tactic.Common

/-!
# Lower-bound search

A predicate on the indices that holds on an initial segment only ends at one place of an
interval. Halving the interval finds that place, whatever number of turns beyond the length of
the interval the search is given.
-/

namespace LowerBound

/-- Between `lo` and `hi` the predicate holds before `i` and not from `i` on. -/
structure Ends (below : Nat → Bool) (lo hi i : Nat) : Prop where
  lo_le : lo ≤ i
  le_hi : i ≤ hi
  before : ∀ j, lo ≤ j → j < i → below j = true
  after : ∀ j, i ≤ j → j < hi → below j = false

/-- The `while lo < hi` loop of a binary search, for as many turns as there is fuel. -/
def search (below : Nat → Bool) : Nat → Nat → Nat → Nat
  | 0, lo, _ => lo
  | fuel + 1, lo, hi =>
      if lo < hi then
        if below ((lo + hi) / 2) then search below fuel ((lo + hi) / 2 + 1) hi
        else search below fuel lo ((lo + hi) / 2)
      else lo

variable {below : Nat → Bool} {lo hi : Nat}

/-- A predicate ends at one place. -/
theorem Ends.unique {i j : Nat} (hi' : Ends below lo hi i) (hj : Ends below lo hi j) : i = j := by
  rcases Nat.lt_trichotomy i j with hlt | heq | hgt
  · have hbelow := hj.before i hi'.lo_le hlt
    rw [hi'.after i (Nat.le_refl i) (Nat.lt_of_lt_of_le hlt hj.le_hi)] at hbelow
    cases hbelow
  · exact heq
  · have hbelow := hi'.before j hj.lo_le hgt
    rw [hj.after j (Nat.le_refl j) (Nat.lt_of_lt_of_le hgt hi'.le_hi)] at hbelow
    cases hbelow

theorem Ends.empty (lo : Nat) : Ends below lo lo lo where
  lo_le := Nat.le_refl lo
  le_hi := Nat.le_refl lo
  before j hle hlt := by omega
  after j hle hlt := by omega

/-- The upper half of the interval has the end, once its middle is below. -/
theorem Ends.of_upper (hmono : ∀ i j, i ≤ j → below j = true → below i = true) {mid i : Nat}
    (hlo : lo ≤ mid) (hmid : below mid = true) (h : Ends below (mid + 1) hi i) :
    Ends below lo hi i where
  lo_le := by
    have hge := h.lo_le
    omega
  le_hi := h.le_hi
  before j _ hj := by
    rcases Nat.lt_or_ge mid j with hgt | hle
    · exact h.before j hgt hj
    · exact hmono j mid hle hmid
  after := h.after

/-- The lower half has it, once its middle is not. -/
theorem Ends.of_lower (hmono : ∀ i j, i ≤ j → below j = true → below i = true) {mid i : Nat}
    (hle : mid ≤ hi) (hmid : below mid = false) (h : Ends below lo mid i) :
    Ends below lo hi i where
  lo_le := h.lo_le
  le_hi := Nat.le_trans h.le_hi hle
  before := h.before
  after j hj _ := by
    rcases Nat.lt_or_ge j mid with hlt | hge
    · exact h.after j hj hlt
    · cases hbelow : below j with
      | false => rfl
      | true =>
        rw [hmono mid j hge hbelow] at hmid
        cases hmid

/-- With a turn for each index of the interval the search finds the end. -/
theorem search_ends (hmono : ∀ i j, i ≤ j → below j = true → below i = true) (fuel : Nat) :
    ∀ {lo hi : Nat}, lo ≤ hi → hi - lo ≤ fuel → Ends below lo hi (search below fuel lo hi) := by
  induction fuel with
  | zero =>
    intro lo hi hle hfuel
    obtain rfl : lo = hi := by omega
    exact .empty lo
  | succ fuel ih =>
    intro lo hi hle hfuel
    unfold search
    by_cases hlt : lo < hi
    · rw [if_pos hlt]
      by_cases hmid : below ((lo + hi) / 2) = true
      · rw [if_pos hmid]
        exact .of_upper hmono (by omega) hmid (ih (by omega) (by omega))
      · rw [if_neg hmid]
        exact .of_lower hmono (by omega) (Bool.eq_false_iff.mpr hmid)
          (ih (by omega) (by omega))
    · rw [if_neg hlt]
      obtain rfl : lo = hi := by omega
      exact .empty lo

end LowerBound
