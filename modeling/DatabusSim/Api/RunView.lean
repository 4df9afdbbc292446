import DatabusSim.Runtime.LostRuns

/-!
# The run view

`run_detail_view` answers 404 where `get_run_hash` has no field for it. That is so when databus
does not know the run, and also for each failure that `_get_run` swallows.
-/

namespace DatabusSim

/-- The value a key stands for; a key that is a number comes back as a float. -/
def Key.value : Key → PyVal
  | .null => .null
  | .num q => .float q
  | .str s => .str s
  | .instant q => .datetime ⟨q, some 0⟩
  | .naive q => .datetime ⟨q, none⟩
  | .date day => .date day
  | .bytes bs => .bytes bs

namespace DatabusClient

/-- The `ValueError` of an element that is no pair. -/
def notAPair (i length : Nat) : PyExc :=
  .valueError ("dictionary update sequence element #" ++ toString i ++ " has length " ++
    toString length ++ "; 2 is required") none

/-- The key and the value that `dict` takes from element `i` of a sequence. -/
def pairOf (i : Nat) : PyVal → Except PyExc (PyVal × PyVal)
  | .list xs =>
      match xs with
      | [k, v] => .ok (k, v)
      | xs => .error (notAPair i xs.length)
  | .dict items =>
      match items with
      | [(k, _), (v, _)] => .ok (k.value, v.value)
      | items => .error (notAPair i items.length)
  | .str s =>
      match s.toList with
      | [k, v] => .ok (.str (String.singleton k), .str (String.singleton v))
      | cs => .error (notAPair i cs.length)
  | _ =>
      .error (.typeError ("cannot convert dictionary update sequence element #" ++ toString i ++
        " to a sequence"))

def setPair (items : List (Key × PyVal)) (x : PyVal × Nat) :
    Except PyExc (List (Key × PyVal)) := do
  let (k, v) ← pairOf x.2 x.1
  match k.key? with
  | some key => pure (Dict.setEntry key v items)
  | none => .error (.typeError "unhashable type")

/-- `dict(value)`. -/
def dictOf : PyVal → Except PyExc (List (Key × PyVal))
  | .dict items => .ok items
  | .list xs => xs.zipIdx.foldlM setPair []
  -- its elements are strings of one character
  | .str s => if s = "" then .ok [] else .error (notAPair 0 1)
  | _ => .error (.typeError "object is not iterable")

/-- The field map that `get_run_hash` makes of the body of an answer. -/
def hashOf (items : List (Key × PyVal)) : Except PyExc (List (Key × PyVal)) := do
  let fields := (PyVal.getItem? items "fields").getD .null
  let fields ← dictOf (if fields.truthy then fields else .dict [])
  match (PyVal.getItem? items "run_lifecycle_state").getD .null with
  | .null => pure fields
  | state => pure (Dict.setEntry (.str "run_lifecycle_state") state fields)

/-- `get_run_hash`. -/
def getRunHash (h : Http) : Except PyExc (List (Key × PyVal)) := do
  match ← getRun h with
  | none => pure []
  | some (.dict items) => hashOf items
  | some _ => .error (.attributeError "object has no attribute 'get'")

/-! ## Answers without a field -/

theorem setEntry_ne_nil (k : Key) (v : PyVal) (l : List (Key × PyVal)) :
    Dict.setEntry k v l ≠ [] := by
  cases l with
  | nil => exact List.cons_ne_nil _ _
  | cons e l =>
    simp only [Dict.setEntry]
    split <;> exact List.cons_ne_nil _ _

theorem setPair_ne_nil {items items' : List (Key × PyVal)} {x : PyVal × Nat}
    (h : setPair items x = .ok items') : items' ≠ [] := by
  unfold setPair at h
  obtain ⟨⟨k, v⟩, -, h⟩ := bind_ok.mp h
  cases hk : k.key? with
  | none => simp [hk] at h
  | some key =>
    simp only [hk] at h
    cases h
    exact setEntry_ne_nil key v items

theorem foldlM_setPair_ne_nil {xs : List (PyVal × Nat)} {items items' : List (Key × PyVal)}
    (h : xs.foldlM setPair items = .ok items') (hne : items ≠ []) : items' ≠ [] := by
  induction xs generalizing items with
  | nil =>
    cases h
    exact hne
  | cons x xs ih =>
    rw [List.foldlM_cons] at h
    obtain ⟨items₁, h₁, h⟩ := bind_ok.mp h
    exact ih h (setPair_ne_nil h₁)

/-- Only what is falsy makes an empty dictionary. -/
theorem dictOf_empty {v : PyVal} (h : dictOf v = .ok []) : v.truthy = false := by
  cases v with
  | dict items =>
    cases h
    rfl
  | list xs =>
    cases xs with
    | nil => rfl
    | cons x xs =>
      simp only [dictOf, List.zipIdx_cons, List.foldlM_cons] at h
      obtain ⟨items, hx, h⟩ := bind_ok.mp h
      exact absurd rfl (foldlM_setPair_ne_nil h (setPair_ne_nil hx))
  | str s =>
    by_cases hs : s = ""
    · simp [PyVal.truthy, hs]
    · simp [dictOf, hs] at h
  | _ => cases h

/-- A success whose body is not JSON, is `null`, or is an object with neither fields nor a
state. -/
def Fieldless : Option PyVal → Prop
  | none => True
  | some .null => True
  | some (.dict items) =>
      ((PyVal.getItem? items "fields").getD .null).truthy = false ∧
        (PyVal.getItem? items "run_lifecycle_state").getD .null = .null
  | some _ => False

/-- The answers, other than a 404, that leave no field of a run. -/
def Emptied : Http → Prop
  | .raised exc => ∃ text, exc = .httpError text
  | .response status json => status ≠ 404 ∧ (isSuccess status = false ∨ Fieldless json)

theorem hashOf_empty_iff {items : List (Key × PyVal)} :
    hashOf items = .ok [] ↔ Fieldless (some (.dict items)) := by
  unfold hashOf
  constructor
  · intro h
    obtain ⟨read, hread, h⟩ := bind_ok.mp h
    split at h
    · rename_i hstate
      cases h
      refine ⟨?_, hstate⟩
      cases htruthy : ((PyVal.getItem? items "fields").getD .null).truthy with
      | false => rfl
      | true =>
        rw [if_pos htruthy] at hread
        rw [dictOf_empty hread] at htruthy
        cases htruthy
    · exact absurd (Except.ok.inj h) (setEntry_ne_nil _ _ _)
  · intro h
    obtain ⟨hfields, hstate⟩ := h
    simp only [hfields, hstate]
    rfl

theorem getRunHash_response {status : Nat} (json : Option PyVal) (h : status ≠ 404) :
    getRunHash (.response status json) =
      if !isSuccess status then .ok []
      else
        match json with
        | none => .ok []
        | some .null => .ok []
        | some (.dict items) => hashOf items
        | some _ => .error (.attributeError "object has no attribute 'get'") := by
  unfold getRunHash getRun
  cases hsuccess : isSuccess status with
  | false => simp [bind, Except.bind, pure, Except.pure, hsuccess]
  | true =>
    rcases json with _ | body
    · simp [bind, Except.bind, pure, Except.pure, hsuccess]
    · cases body <;> simp [bind, Except.bind, pure, Except.pure, hsuccess]

/-- No field comes of a 404, and none of the failures that look like one. -/
theorem getRunHash_empty_iff {http : Http} :
    getRunHash http = .ok [] ↔ NotFound http ∨ Emptied http := by
  cases http with
  | raised exc =>
    cases exc <;> simp [getRunHash, getRun, NotFound, Emptied, bind, Except.bind, pure, Except.pure]
  | response status json =>
    by_cases h : status = 404
    · subst h
      exact iff_of_true rfl (.inl rfl)
    · rw [getRunHash_response json h]
      cases hsuccess : isSuccess status with
      | false => simp [NotFound, Emptied, h, hsuccess]
      | true =>
        rcases json with _ | body
        · simp [NotFound, Emptied, Fieldless, h]
        · cases body with
          | dict items => simp [NotFound, Emptied, h, hsuccess, hashOf_empty_iff]
          | _ => simp [NotFound, Emptied, Fieldless, h, hsuccess]

end DatabusClient

/-! ## The view -/

/-- A response of `run_detail_view`. -/
inductive RunDetail where
  | notReady
  /-- What the view does not catch. -/
  | failed (exc : PyExc)
  | notFound (runId : String)
  | found (runId : String) (state : Option PyVal) (fields : List (Key × PyVal))

def RunDetail.status : RunDetail → Nat
  | .notReady => 503
  | .failed _ => 500
  | .notFound _ => 404
  | .found _ _ _ => 200

/-- `run_detail_view`; `databus` is what asking databus came to, where there is a client. -/
def runDetailView (databus : Option Http) (runId : String) : RunDetail :=
  match databus with
  | none => .notReady
  | some http =>
      match DatabusClient.getRunHash http with
      | .error exc => .failed exc
      | .ok [] => .notFound runId
      | .ok fields => .found runId (PyVal.getItem? fields "run_lifecycle_state") fields

open DatabusClient in
theorem runDetailView_notFound_iff {databus : Option Http} {runId : String} :
    (runDetailView databus runId).status = 404 ↔
      ∃ http, databus = some http ∧ (NotFound http ∨ Emptied http) := by
  cases databus with
  | none => simp [runDetailView, RunDetail.status]
  | some http =>
    simp only [Option.some.injEq, exists_eq_left', ← getRunHash_empty_iff]
    simp only [runDetailView]
    generalize getRunHash http = hash
    rcases hash with exc | fields
    · simp [RunDetail.status]
    · cases fields <;> simp [RunDetail.status]

end DatabusSim
