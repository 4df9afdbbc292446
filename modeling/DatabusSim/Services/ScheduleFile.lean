import DatabusSim.Services.SchedulerSteps

/-!
# What `write` and `load` make of a document

Both run the same loop over the entries (`checkRuns`), so a document that `write` has
let through and whose defaults `int` reads is loaded without an error, and what is
loaded is its list of runs.
-/

namespace DatabusSim.Scheduler

variable {fromisoformat : String → Except PyExc DateTime}

/-! ## The validation loop -/

/-- The loop lets an entry through: its id is not empty and it passes `_validate_entry`. -/
structure Admitted (fromisoformat : String → Except PyExc DateTime) (e : Entry) : Prop where
  named : ∃ v, PyVal.getItem? e.fields "id" = some v ∧ v.truthy = true
  valid : validateEntry fromisoformat e.fields = .ok ()

/-- The loop lets a list through when it lets its head through, under an id not seen
yet, and then the rest. -/
theorem checkRuns_cons {run : PyVal} {rest : List PyVal} {seen : List Key} {entries : List Entry} :
    checkRuns fromisoformat (run :: rest) seen = .ok entries ↔
      ∃ e tail, entries = e :: tail ∧ run = .dict e.fields ∧ Admitted fromisoformat e ∧
        e.id ∉ seen ∧ checkRuns fromisoformat rest (e.id :: seen) = .ok tail := by
  constructor
  · intro h
    cases run with
    | dict fields =>
      unfold checkRuns at h
      split at h
      · cases h
      · rename_i v hv
        by_cases ht : v.truthy = true
        · simp only [ht, Bool.not_true, Bool.false_eq_true, if_false] at h
          split at h
          · cases h
          · rename_i eid hk
            by_cases hseen : eid ∈ seen
            · rw [if_pos hseen] at h
              cases h
            · rw [if_neg hseen] at h
              split at h
              · cases h
              · rename_i hval
                obtain ⟨tail, htail, h⟩ := bind_ok.mp h
                cases h
                exact ⟨_, tail, rfl, rfl, ⟨⟨v, hv, ht⟩, hval⟩, hseen, htail⟩
        · rw [Bool.not_eq_true] at ht
          simp only [ht, Bool.not_false, if_true] at h
          cases h
    | _ => cases h
  · rintro ⟨e, tail, rfl, rfl, ⟨⟨v, hv, ht⟩, hval⟩, hseen, htail⟩
    have hk : v.key? = some e.id := by
      have hid := e.id_eq
      rw [hv] at hid
      exact hid
    unfold checkRuns
    split
    · rename_i hv'
      rw [hv] at hv'
      cases hv'
    · rename_i v' hv'
      rw [hv] at hv'
      cases hv'
      simp only [ht, Bool.not_true, Bool.false_eq_true, if_false]
      split
      · rename_i hk'
        rw [hk] at hk'
        cases hk'
      · rename_i eid hk'
        rw [hk] at hk'
        cases hk'
        rw [if_neg hseen]
        split
        · rename_i hval'
          rw [hval] at hval'
          cases hval'
        · exact bind_ok.mpr ⟨tail, htail, rfl⟩

/-- The loaded entries are the runs of the list, in its order. -/
theorem checkRuns_fields {runs : List PyVal} {seen : List Key} {entries : List Entry}
    (h : checkRuns fromisoformat runs seen = .ok entries) :
    entries.map (fun e => .dict e.fields) = runs := by
  induction runs generalizing seen entries with
  | nil =>
    cases h
    rfl
  | cons run rest ih =>
    obtain ⟨e, tail, rfl, rfl, -, -, htail⟩ := checkRuns_cons.mp h
    rw [List.map_cons, ih htail]

/-! ## Statuses -/

/-- What a load makes of the statuses: those there are stay, the entries without one
become pending. -/
theorem get?_registerIds (statuses : Dict Key Status) (entries : List Entry) (id : Key) :
    (registerIds statuses entries).get? id =
      (statuses.get? id).or (if id ∈ entries.map Entry.id then some .pending else none) := by
  induction entries generalizing statuses with
  | nil => simp [registerIds]
  | cons e entries ih =>
    rw [registerIds, List.foldl_cons]
    refine (ih _).trans ?_
    by_cases hid : id = e.id
    · subst hid
      cases hst : statuses.get? e.id <;> simp [Dict.contains, hst]
    · have hset : (statuses.set e.id .pending).get? id = statuses.get? id :=
        Dict.get?_set_ne statuses .pending hid
      simp only [List.map_cons, List.mem_cons, hid, false_or]
      split
      · rfl
      · rw [hset]

/-! ## A write and the reload after it -/

/-- A document whose runs pass the loop replaces the file. -/
theorem write_ok {s : Scheduler} {items : List (Key × PyVal)} {runs : List PyVal}
    {entries : List Entry} (hitems : (PyVal.dict items).unrolled = .dict items)
    (hruns : runsOf items = .ok runs) (hcheck : checkRuns fromisoformat runs [] = .ok entries) :
    s.write fromisoformat (.dict items) = .ok { s with file := .ok (.dict items) } := by
  simp only [write, hitems, hruns, Except.bind, hcheck]

/-- `write` rejects a document before it touches the file. -/
theorem write_error {s : Scheduler} {items : List (Key × PyVal)} {runs : List PyVal}
    {exc : PyExc} (hitems : (PyVal.dict items).unrolled = .dict items)
    (hruns : runsOf items = .ok runs) (hcheck : checkRuns fromisoformat runs [] = .error exc) :
    s.write fromisoformat (.dict items) = .error ⟨exc, s⟩ := by
  simp only [write, hitems, hruns, Except.bind, hcheck]

/-- A file whose defaults and runs are in order is loaded. -/
theorem load_ok {s : Scheduler} {items : List (Key × PyVal)} {defaults : Defaults}
    {runs : List PyVal} {entries : List Entry} (hfile : s.file = .ok (.dict items))
    (hne : items ≠ []) (hitems : (PyVal.dict items).unrolled = .dict items)
    (hdefaults : readDefaults items = .ok defaults) (hruns : runsOf items = .ok runs)
    (hcheck : checkRuns fromisoformat runs [] = .ok entries) :
    s.load fromisoformat = .ok
      { s with
        defaults := defaults
        entries := entries
        statuses := registerIds s.statuses entries } := by
  have htruthy : (PyVal.dict items).truthy = true := by
    simp [PyVal.truthy, hne]
  unfold load
  simp only [hfile, htruthy, if_true, hitems, hdefaults, hruns, Except.bind, hcheck]

end DatabusSim.Scheduler
