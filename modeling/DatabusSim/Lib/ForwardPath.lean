import Mathlib.Algebra.BigOperators.Group.List.Basic
import Mathlib.Algebra.Order.Monoid.Defs
import Mathlib.Data.List.GetD
import Mathlib.Data.List.Pairwise

/-!
# Cheapest forward paths through layers of costs

A layer is a list of costs, one for each column. A path picks one column in
each layer and never goes back to a lower one. The module has the rule by which
a table of least costs is built: a layer may be merged into the next one
(`Relaxes`), and a cheapest path through the merged layers, extended by its
back pointer, is a cheapest path through the layers that were merged
(`Relaxes.cheapest`).
-/

namespace ForwardPath

/-- The path `s` picks one of `width` columns in each of `layers` layers, and
never goes back. -/
structure Forward (layers width : Nat) (s : List Nat) : Prop where
  length_eq : s.length = layers
  lt_width : ∀ j ∈ s, j < width
  nondecreasing : s.Pairwise (· ≤ ·)

theorem forward_cons {layers width j : Nat} {s : List Nat} :
    Forward (layers + 1) width (j :: s) ↔
      j < width ∧ (∀ i ∈ s, j ≤ i) ∧ Forward layers width s := by
  constructor
  · rintro ⟨hlen, hlt, hle⟩
    rw [List.pairwise_cons] at hle
    exact ⟨hlt j List.mem_cons_self, hle.1, Nat.succ.inj hlen,
      fun i hi => hlt i (List.mem_cons_of_mem _ hi), hle.2⟩
  · rintro ⟨hj, hle, hs⟩
    exact ⟨congrArg Nat.succ hs.length_eq, List.forall_mem_cons.mpr ⟨hj, hs.lt_width⟩,
      List.pairwise_cons.mpr ⟨hle, hs.nondecreasing⟩⟩

variable {β : Type*} [AddCommMonoid β]

/-- What the columns a path picks cost together. -/
def pathCost (costs : List (List β)) (s : List Nat) : β :=
  (List.zipWith (fun layer j => layer.getD j 0) costs s).sum

@[simp] theorem pathCost_nil (s : List Nat) : pathCost ([] : List (List β)) s = 0 := rfl

@[simp] theorem pathCost_cons (layer : List β) (costs : List (List β)) (j : Nat)
    (s : List Nat) : pathCost (layer :: costs) (j :: s) = layer.getD j 0 + pathCost costs s := by
  simp [pathCost]

/-- An additive map carries the cost of a path over. -/
theorem pathCost_map {γ : Type*} [AddCommMonoid γ] (f : β →+ γ) (costs : List (List β))
    (s : List Nat) : pathCost (costs.map (List.map f)) s = f (pathCost costs s) := by
  induction costs generalizing s with
  | nil => simp
  | cons layer costs ih =>
    cases s with
    | nil => simp [pathCost]
    | cons j s =>
      have hget : (layer.map f).getD j 0 = f (layer.getD j 0) := by
        rw [← List.getD_map layer 0 f, map_zero]
      rw [List.map_cons, pathCost_cons, pathCost_cons, ih, map_add, hget]

variable [LinearOrder β]

/-- No path through the layers is cheaper than `s`. -/
structure Cheapest (width : Nat) (costs : List (List β)) (s : List Nat) : Prop where
  forward : Forward costs.length width s
  le_cost : ∀ s', Forward costs.length width s' → pathCost costs s ≤ pathCost costs s'

/-- The cheapest paths through a single layer are its least columns. -/
theorem cheapest_single {width j : Nat} {layer : List β} (hj : j < width)
    (hle : ∀ i < width, layer.getD j 0 ≤ layer.getD i 0) : Cheapest width [layer] [j] where
  forward := forward_cons.mpr ⟨hj, fun _ h => (nomatch h), rfl, fun _ h => (nomatch h), .nil⟩
  le_cost s' hs' := by
    match s', hs' with
    | [], hs' => cases hs'.length_eq
    | i :: rest, hs' =>
      have hrest : rest = [] := List.eq_nil_of_length_eq_zero (forward_cons.mp hs').2.2.length_eq
      subst hrest
      simpa using hle i (forward_cons.mp hs').1

/-- The layer `merged` stands for the layers `prev` and `next`: its column `j`
costs what `next` does there and the least that `prev` does up to there, which
`prev` does at `back j`. -/
def Relaxes (width : Nat) (prev next merged : List β) (back : Nat → Nat) : Prop :=
  ∀ j < width, back j ≤ j ∧ merged.getD j 0 = next.getD j 0 + prev.getD (back j) 0 ∧
    ∀ i ≤ j, prev.getD (back j) 0 ≤ prev.getD i 0

variable {width : Nat} {prev next merged : List β} {back : Nat → Nat}

/-- Going through the back pointer costs what the merged layer says. -/
theorem Relaxes.pathCost_back (hrel : Relaxes width prev next merged back)
    (costs : List (List β)) {j : Nat} {s : List Nat} (hj : j < width) :
    pathCost (prev :: next :: costs) (back j :: j :: s) =
      pathCost (merged :: costs) (j :: s) := by
  rw [pathCost_cons, pathCost_cons, pathCost_cons, (hrel j hj).2.1, add_assoc,
    add_left_comm]

variable [IsOrderedAddMonoid β]

/-- A path through the two layers costs at least what it does through the
merged one. -/
theorem Relaxes.le_pathCost (hrel : Relaxes width prev next merged back)
    (costs : List (List β)) {i j : Nat} {s : List Nat} (hj : j < width) (hij : i ≤ j) :
    pathCost (merged :: costs) (j :: s) ≤ pathCost (prev :: next :: costs) (i :: j :: s) := by
  obtain ⟨-, hcost, hleast⟩ := hrel j hj
  rw [pathCost_cons, pathCost_cons, pathCost_cons, hcost, add_comm (next.getD j 0), add_assoc]
  exact add_le_add_left (hleast i hij) _

/-- A cheapest path through the merged layers, with its back pointer before it, is
a cheapest path through the layers that were merged. -/
theorem Relaxes.cheapest (hrel : Relaxes width prev next merged back)
    {costs : List (List β)} {j : Nat} {s : List Nat}
    (hs : Cheapest width (merged :: costs) (j :: s)) :
    Cheapest width (prev :: next :: costs) (back j :: j :: s) := by
  obtain ⟨hj, hjs, htail⟩ := forward_cons.mp hs.forward
  have hback : back j ≤ j := (hrel j hj).1
  constructor
  · refine forward_cons.mpr ⟨hback.trans_lt hj, ?_, hs.forward⟩
    exact List.forall_mem_cons.mpr ⟨hback, fun i hi => hback.trans (hjs i hi)⟩
  · intro s' hs'
    match s', hs' with
    | [], hs' => cases hs'.length_eq
    | [_], hs' => cases Nat.succ.inj hs'.length_eq
    | i :: k :: rest, hs' =>
      obtain ⟨-, hik, hks⟩ := forward_cons.mp hs'
      calc pathCost (prev :: next :: costs) (back j :: j :: s)
          = pathCost (merged :: costs) (j :: s) := hrel.pathCost_back costs hj
        _ ≤ pathCost (merged :: costs) (k :: rest) := hs.le_cost _ hks
        _ ≤ pathCost (prev :: next :: costs) (i :: k :: rest) :=
            hrel.le_pathCost costs (forward_cons.mp hks).1 (hik k List.mem_cons_self)

/-! ## Paths that pick the least of each layer -/

/-- The path picks a least column in each layer. -/
def LeastEach (width : Nat) (costs : List (List β)) (s : List Nat) : Prop :=
  ∀ (k : Nat) (layer : List β) (j : Nat), costs[k]? = some layer → s[k]? = some j →
    ∀ i < width, layer.getD j 0 ≤ layer.getD i 0

omit [IsOrderedAddMonoid β] in
theorem leastEach_cons {layer : List β} {costs : List (List β)} {j : Nat} {s : List Nat} :
    LeastEach width (layer :: costs) (j :: s) ↔
      (∀ i < width, layer.getD j 0 ≤ layer.getD i 0) ∧ LeastEach width costs s := by
  constructor
  · exact fun h => ⟨h 0 layer j rfl rfl, fun k => h (k + 1)⟩
  · rintro ⟨hhead, htail⟩ k layer' j' hlayer hj'
    cases k with
    | zero =>
      cases hlayer
      cases hj'
      exact hhead
    | succ k => exact htail k layer' j' hlayer hj'

/-- Such a path costs no more than any other. -/
theorem LeastEach.le_pathCost {costs : List (List β)} {s t : List Nat}
    (ht : LeastEach width costs t) (htf : Forward costs.length width t)
    (hs : Forward costs.length width s) : pathCost costs t ≤ pathCost costs s := by
  induction costs generalizing s t with
  | nil => simp
  | cons layer costs ih =>
    match s, t, hs, htf, ht with
    | i :: s, j :: t, hs, htf, ht =>
      obtain ⟨hhead, htail⟩ := leastEach_cons.mp ht
      obtain ⟨hi, -, hs⟩ := forward_cons.mp hs
      rw [pathCost_cons, pathCost_cons]
      exact add_le_add (hhead i hi) (ih htail (forward_cons.mp htf).2.2 hs)

/-- And a path that costs no more than it picks the least of each layer as well. -/
theorem LeastEach.of_pathCost_le [IsLeftCancelAdd β] {costs : List (List β)} {s t : List Nat}
    (ht : LeastEach width costs t) (htf : Forward costs.length width t)
    (hs : Forward costs.length width s) (hle : pathCost costs s ≤ pathCost costs t) :
    LeastEach width costs s := by
  induction costs generalizing s t with
  | nil => exact fun k layer j hlayer => by simp at hlayer
  | cons layer costs ih =>
    match s, t, hs, htf, ht with
    | i :: s, j :: t, hs, htf, ht =>
      obtain ⟨hhead, htail⟩ := leastEach_cons.mp ht
      obtain ⟨hi, -, hs⟩ := forward_cons.mp hs
      obtain ⟨-, -, htf⟩ := forward_cons.mp htf
      rw [pathCost_cons, pathCost_cons] at hle
      have hrest : pathCost costs t ≤ pathCost costs s := htail.le_pathCost htf hs
      have hfirst : layer.getD i 0 ≤ layer.getD j 0 :=
        le_of_add_le_add_right (hle.trans (add_le_add le_rfl hrest))
      have hbelow : pathCost costs s ≤ pathCost costs t :=
        le_of_add_le_add_left (hle.trans (add_le_add (hhead i hi) le_rfl))
      exact leastEach_cons.mpr
        ⟨fun k hk => hfirst.trans (hhead k hk), ih htail htf hs hbelow⟩

/-- A cheapest path picks the least of each layer exactly when some path does. -/
theorem Cheapest.leastEach_iff [IsLeftCancelAdd β] {costs : List (List β)} {s : List Nat}
    (hs : Cheapest width costs s) :
    LeastEach width costs s ↔ ∃ t, Forward costs.length width t ∧ LeastEach width costs t := by
  constructor
  · exact fun h => ⟨s, hs.forward, h⟩
  · rintro ⟨t, htf, ht⟩
    exact ht.of_pathCost_le htf hs.forward (hs.le_cost t htf)

end ForwardPath
