import DatabusSim.Services.RunBinderSteps

/-!
# The binder's own invariant

The table maps each run id to an object of that run; the object the loop waits for is
one that may be polled; a round has passed the ids before the one it waits for, and
all of them when it ends; and as long as the loop lives no object has a state that
cannot be hashed.
-/

namespace DatabusSim

/-- The loop polls an object unless its state is terminal. -/
def BoundRun.Pollable (b : BoundRun) : Prop :=
  ∀ st, b.lifecycleState = some st → st.isTerminal = false

/-- The fields `track` gives an object and nothing writes again. -/
structure BoundRun.SameRun (b b' : BoundRun) : Prop where
  runId : b'.runId = b.runId
  vehicleId : b'.vehicleId = b.vehicleId
  tripId : b'.tripId = b.tripId
  shapeId : b'.shapeId = b.shapeId
  terminalStopId : b'.terminalStopId = b.terminalStopId

theorem BoundRun.SameRun.refl (b : BoundRun) : b.SameRun b := ⟨rfl, rfl, rfl, rfl, rfl⟩

/-- The round in progress, or the last one; none once the loop has ended. -/
def PollLoop.round? : PollLoop → Option Round
  | .sleeping last => some last
  | .awaiting round _ _ _ => some round
  | .dead _ => none

namespace RunBinder

/-- The run a visit is of was to be passed that way. -/
def Passes (b : RunBinder) : Visit → Prop
  | .polled runId => ∃ ref, b.bindings.get? runId = some ref ∧ (b.heap ref).Pollable
  | .gone runId => b.bindings.get? runId = none
  | .finished runId => ∃ ref st, b.bindings.get? runId = some ref ∧
      (b.heap ref).lifecycleState = some st ∧ st.isTerminal = true

/-- The round of `ids` goes on from the visits `before`: those made since were right. -/
def GoesOn (b : RunBinder) (ids : List String) (before : List Visit) (round : Round) : Prop :=
  round.ids = ids ∧ ∃ passed, round.visits = before ++ passed ∧ ∀ v ∈ passed, b.Passes v

/-- Where the loop is in a round of `ids` that had made the visits `before`. -/
structure InRound (b : RunBinder) (ids : List String) (before : List Visit) (loop : PollLoop) :
    Prop where
  goesOn : ∀ round, loop.round? = some round → b.GoesOn ids before round
  sleeping : ∀ last, loop = .sleeping last → last.visits.map Visit.runId = ids
  awaiting : ∀ round rest runId ref, loop = .awaiting round rest runId ref →
    round.visits.map Visit.runId ++ rest = ids ∧ b.bindings.get? runId = some ref ∧
      (b.heap ref).Pollable
  dead : ∀ exc, loop = .dead exc → ∃ ref, (b.heap ref).lifecycleState = some .unhashable

theorem inRound_sleeping {b : RunBinder} {ids : List String} {visits : List Visit}
    (h : visits.map Visit.runId = ids) : InRound b ids visits (.sleeping ⟨ids, visits⟩) := by
  refine ⟨?_, ?_, ?_, ?_⟩
  · intro round hround
    cases hround
    exact ⟨rfl, [], by simp⟩
  · intro last hl
    cases hl
    exact h
  · intro round rest runId ref hl
    cases hl
  · intro exc hl
    cases hl

/-- The walk ends at an id that is polled. -/
theorem inRound_awaiting {b : RunBinder} {ids rest : List String} {visits : List Visit}
    {runId : String} {ref : Ref} (h : visits.map Visit.runId ++ runId :: rest = ids)
    (href : b.bindings.get? runId = some ref) (hp : (b.heap ref).Pollable) :
    InRound b ids visits (.awaiting ⟨ids, visits ++ [.polled runId]⟩ rest runId ref) := by
  refine ⟨?_, ?_, ?_, ?_⟩
  · intro round hround
    cases hround
    refine ⟨rfl, [.polled runId], rfl, fun v hv => ?_⟩
    rw [List.mem_singleton.mp hv]
    exact ⟨ref, href, hp⟩
  · intro last hl
    cases hl
  · intro round rest' runId' ref' hl
    cases hl
    exact ⟨by simpa [Visit.runId] using h, href, hp⟩
  · intro exc hl
    cases hl

theorem inRound_dead {b : RunBinder} {ids : List String} {visits : List Visit} {exc : PyExc}
    {ref : Ref} (h : (b.heap ref).lifecycleState = some .unhashable) :
    InRound b ids visits (.dead exc) := by
  refine ⟨?_, ?_, ?_, fun _ _ => ⟨ref, h⟩⟩
  · intro round hround
    cases hround
  · intro last hl
    cases hl
  · intro round rest' runId' ref' hl
    cases hl

/-- An id that is left out is one more visit. -/
theorem InRound.skip {b : RunBinder} {ids : List String} {visits : List Visit} {v : Visit}
    {loop : PollLoop} (h : InRound b ids (visits ++ [v]) loop) (hpass : b.Passes v) :
    InRound b ids visits loop := by
  refine ⟨fun round hround => ?_, h.sleeping, h.awaiting, h.dead⟩
  obtain ⟨hids, passed, hvisits, hpassed⟩ := h.goesOn round hround
  refine ⟨hids, v :: passed, by rw [hvisits, List.append_assoc, List.singleton_append], ?_⟩
  exact List.forall_mem_cons.mpr ⟨hpass, hpassed⟩

/-- The loop takes the ids in order and leaves out those it may. -/
theorem advance_inRound (b : RunBinder) (ids : List String) :
    ∀ todo visits, visits.map Visit.runId ++ todo = ids →
      InRound b ids visits (b.advance ids todo visits) := by
  intro todo
  induction todo with
  | nil =>
    intro visits h
    rw [List.append_nil] at h
    exact inRound_sleeping h
  | cons runId rest ih =>
    intro visits h
    have hskip : ∀ v : Visit, v.runId = runId → b.Passes v →
        InRound b ids visits (b.advance ids rest (visits ++ [v])) :=
      fun v hv hpass => (ih (visits ++ [v]) (by simpa [hv] using h)).skip hpass
    unfold advance
    cases href : b.bindings.get? runId with
    | none => exact hskip (.gone runId) rfl href
    | some ref =>
      simp only
      split
      · rename_i hst
        exact inRound_dead hst
      · rename_i st _ hst
        cases hterminal : st.isTerminal with
        | true =>
          rw [if_pos rfl]
          exact hskip (.finished runId) rfl ⟨ref, st, href, hst, hterminal⟩
        | false =>
          rw [if_neg Bool.false_ne_true]
          refine inRound_awaiting h href fun st' hs => ?_
          rw [hst] at hs
          cases hs
          exact hterminal
      · rename_i hst
        refine inRound_awaiting h href fun st hs => ?_
        rw [hst] at hs
        cases hs

/-! ## What the steps keep -/

/-- What a poll of the object `ref` may change of the binder. -/
structure PollFrame (ref : Ref) (b b' : RunBinder) : Prop where
  fresh : b'.fresh = b.fresh
  bindings : ∀ runId ref', b'.bindings.get? runId = some ref' → b.bindings.get? runId = some ref'
  self : (b.heap ref).SameRun (b'.heap ref)
  other : ∀ ref', ref' ≠ ref → b'.heap ref' = b.heap ref'

theorem PollFrame.refl (ref : Ref) (b : RunBinder) : PollFrame ref b b :=
  ⟨rfl, fun _ _ h => h, .refl _, fun _ _ => rfl⟩

theorem PollFrame.sameRun {ref : Ref} {b b' : RunBinder} (h : PollFrame ref b b') (ref' : Ref) :
    (b.heap ref').SameRun (b'.heap ref') := by
  by_cases hr : ref' = ref
  · rw [hr]
    exact h.self
  · rw [h.other ref' hr]
    exact .refl _

theorem get?_untrack {b : RunBinder} {runId r : String} {ref : Ref}
    (h : (b.untrack runId).bindings.get? r = some ref) : b.bindings.get? r = some ref := by
  unfold untrack at h
  rw [Dict.get?_erase] at h
  split at h
  · cases h
  · exact h

theorem heap_announce (b : RunBinder) (c : StateChange) : (b.announce c).heap = b.heap := by
  unfold announce onStateChange
  split <;> split <;> rfl

theorem bindings_announce (b : RunBinder) (c : StateChange) :
    (b.announce c).bindings = b.bindings := by
  unfold announce onStateChange
  split <;> split <;> rfl

theorem lost_announce (b : RunBinder) (c : StateChange) : (b.announce c).lost = b.lost := by
  unfold announce onStateChange
  split <;> split <;> rfl

theorem sampled_announce (b : RunBinder) (c : StateChange) :
    (b.announce c).sampled = b.sampled := by
  unfold announce onStateChange
  split <;> split <;> rfl

theorem fresh_announce (b : RunBinder) (c : StateChange) : (b.announce c).fresh = b.fresh := by
  unfold announce onStateChange
  split <;> split <;> rfl

theorem stored_frame (b : RunBinder) (now : ℚ) (ref : Ref) (st : LifecycleState) :
    PollFrame ref b (b.stored now ref st) := by
  refine ⟨rfl, fun _ _ h => h, ?_, fun ref' h => b.heap_stored_ne now st h⟩
  rw [heap_stored_self]
  exact ⟨rfl, rfl, rfl, rfl, rfl⟩

theorem PollFrame.announce {ref : Ref} {b b' : RunBinder} (h : PollFrame ref b b')
    (c : StateChange) : PollFrame ref b (b'.announce c) := by
  refine ⟨?_, ?_, ?_, ?_⟩
  · rw [fresh_announce, h.fresh]
  · rw [bindings_announce]
    exact h.bindings
  · rw [heap_announce]
    exact h.self
  · rw [heap_announce]
    exact h.other

theorem processPoll_frame (s : BinderState) (now : ℚ) (runId : String) (ref : Ref)
    (out : Except PyExc (Option LifecycleState)) :
    PollFrame ref s.binder (settle (processPoll s now runId ref out)).binder := by
  have h := processPoll_polled s now runId ref out
  generalize processPoll s now runId ref out = res at h ⊢
  cases h with
  | failed => exact .refl ref _
  | kept => exact .refl ref _
  | lost => exact ⟨rfl, fun _ _ => get?_untrack, .refl _, fun _ _ => rfl⟩
  | lostOffRoster => exact ⟨rfl, fun _ _ h => h, .refl _, fun _ _ => rfl⟩
  | same =>
    refine ⟨rfl, fun _ _ h => h, ?_, fun ref' h => ?_⟩
    · rw [settle, heap_noteSample_self]
      exact ⟨rfl, rfl, rfl, rfl, rfl⟩
    · exact heap_noteSample_ne _ _ _ h
  | changed => exact (stored_frame ..).announce _
  | unhashable => exact stored_frame ..
  | changedOffRoster => exact stored_frame ..

/-- The binder's invariant. -/
structure WellFormed (b : RunBinder) : Prop where
  tracked : ∀ runId ref, b.bindings.get? runId = some ref →
    ref < b.fresh ∧ (b.heap ref).runId = runId
  awaited : ∀ round rest runId ref, b.loop = .awaiting round rest runId ref →
    ref < b.fresh ∧ (b.heap ref).runId = runId ∧ (b.heap ref).Pollable
  rounds : match b.loop with
    | .sleeping last => last.visits.map Visit.runId = last.ids
    | .awaiting round rest _ _ => round.visits.map Visit.runId ++ rest = round.ids
    | .dead _ => True
  hashable : (∀ exc, b.loop ≠ .dead exc) →
    ∀ ref, (b.heap ref).lifecycleState ≠ some .unhashable

/-- A round that is over has passed all of its ids. -/
theorem WellFormed.passedAll {b : RunBinder} (h : b.WellFormed) {last : Round}
    (hl : b.loop = .sleeping last) : last.visits.map Visit.runId = last.ids := by
  have hrounds := h.rounds
  rw [hl] at hrounds
  exact hrounds

/-- A round in progress has passed its ids up to those that are left. -/
theorem WellFormed.passed {b : RunBinder} (h : b.WellFormed) {round : Round} {rest : List String}
    {runId : String} {ref : Ref} (hl : b.loop = .awaiting round rest runId ref) :
    round.visits.map Visit.runId ++ rest = round.ids := by
  have hrounds := h.rounds
  rw [hl] at hrounds
  exact hrounds

theorem WellFormed.hashable_awaiting {b : RunBinder} (h : b.WellFormed) {round : Round}
    {rest : List String} {runId : String} {ref : Ref}
    (hl : b.loop = .awaiting round rest runId ref) (ref' : Ref) :
    (b.heap ref').lifecycleState ≠ some .unhashable :=
  h.hashable (by rw [hl]; simp) ref'

/-- A step that leaves the table, the objects and the loop alone. -/
theorem WellFormed.congr {b b' : RunBinder} (h : b.WellFormed)
    (hbindings : b'.bindings = b.bindings) (hheap : b'.heap = b.heap) (hfresh : b'.fresh = b.fresh)
    (hloop : b'.loop = b.loop) : b'.WellFormed := by
  refine ⟨?_, ?_, ?_, ?_⟩
  · rw [hbindings, hheap, hfresh]
    exact h.tracked
  · rw [hloop, hheap, hfresh]
    exact h.awaited
  · rw [hloop]
    exact h.rounds
  · rw [hloop, hheap]
    exact h.hashable

theorem heap_track_ne (b : RunBinder) (now : ℚ) (runId vehicleId tripId shapeId : String)
    (stop : Option String) {ref : Ref} (h : ref < b.fresh) :
    (b.track now runId vehicleId tripId shapeId stop).heap ref = b.heap ref := by
  simp [track, Function.update_of_ne (Nat.ne_of_lt h)]

theorem WellFormed.track {b : RunBinder} (h : b.WellFormed) (now : ℚ)
    (runId vehicleId tripId shapeId : String) (stop : Option String) :
    (b.track now runId vehicleId tripId shapeId stop).WellFormed := by
  have hold : ∀ {ref}, ref < b.fresh →
      (b.track now runId vehicleId tripId shapeId stop).heap ref = b.heap ref :=
    heap_track_ne b now runId vehicleId tripId shapeId stop
  refine ⟨fun r ref href => ?_, fun round rest r ref hl => ?_, h.rounds, fun hlive ref => ?_⟩
  · simp only [RunBinder.track, Dict.get?_set] at href
    by_cases hr : r = runId
    · rw [if_pos hr] at href
      cases href
      exact ⟨Nat.lt_succ_self _, by simp [RunBinder.track, hr]⟩
    · rw [if_neg hr] at href
      obtain ⟨hlt, hid⟩ := h.tracked r ref href
      exact ⟨Nat.lt_succ_of_lt hlt, by rw [hold hlt, hid]⟩
  · obtain ⟨hlt, hid, hp⟩ := h.awaited round rest r ref hl
    rw [hold hlt]
    exact ⟨Nat.lt_succ_of_lt hlt, hid, hp⟩
  · by_cases hr : ref = b.fresh
    · simp [RunBinder.track, hr]
    · simp only [RunBinder.track, Function.update_of_ne hr]
      exact h.hashable hlive ref

theorem WellFormed.untrack {b : RunBinder} (h : b.WellFormed) (runId : String) :
    (b.untrack runId).WellFormed :=
  ⟨fun r ref href => h.tracked r ref (get?_untrack href), h.awaited, h.rounds, h.hashable⟩

/-- The walk to the next GET, over a table that is in order. -/
theorem wellFormed_advance {b : RunBinder}
    (htracked : ∀ runId ref, b.bindings.get? runId = some ref →
      ref < b.fresh ∧ (b.heap ref).runId = runId)
    (hhash : ∀ ref, (b.heap ref).lifecycleState ≠ some .unhashable)
    {ids todo : List String} {visits : List Visit} (h : visits.map Visit.runId ++ todo = ids) :
    ({ b with loop := b.advance ids todo visits } : RunBinder).WellFormed := by
  have hround := advance_inRound b ids todo visits h
  refine ⟨htracked, fun round rest runId ref hl => ?_, ?_, fun _ => hhash⟩
  · obtain ⟨-, href, hp⟩ := hround.awaiting round rest runId ref hl
    obtain ⟨hlt, hid⟩ := htracked runId ref href
    exact ⟨hlt, hid, hp⟩
  · show match b.advance ids todo visits with
      | .sleeping last => last.visits.map Visit.runId = last.ids
      | .awaiting round rest _ _ => round.visits.map Visit.runId ++ rest = round.ids
      | .dead _ => True
    split
    · rename_i last hl
      rw [hround.sleeping last hl, (hround.goesOn last (by rw [hl]; rfl)).1]
    · rename_i round rest runId ref hl
      rw [(hround.awaiting round rest runId ref hl).1, (hround.goesOn round (by rw [hl]; rfl)).1]
    · trivial

theorem WellFormed.wake {b : RunBinder} (h : b.WellFormed) {last : Round}
    (hl : b.loop = .sleeping last) : b.wake.WellFormed :=
  wellFormed_advance h.tracked (h.hashable (by rw [hl]; simp)) (by simp)

/-- A poll that returns leaves no state that cannot be hashed. -/
theorem processPoll_hashable {s s' : BinderState} {now : ℚ} {runId : String} {ref : Ref}
    {out : Except PyExc (Option LifecycleState)}
    (h : ∀ ref, (s.binder.heap ref).lifecycleState ≠ some .unhashable)
    (hpoll : processPoll s now runId ref out = .ok s') (ref' : Ref) :
    (s'.binder.heap ref').lifecycleState ≠ some .unhashable := by
  have hp := processPoll_polled s now runId ref out
  rw [hpoll] at hp
  cases hp with
  | failed => exact h ref'
  | kept => exact h ref'
  | lost => exact h ref'
  | same =>
    by_cases hr : ref' = ref
    · rw [hr, heap_noteSample_self]
      exact h ref
    · rw [heap_noteSample_ne _ _ _ hr]
      exact h ref'
  | changed st v f' _ hu =>
    rw [heap_announce]
    by_cases hr : ref' = ref
    · rw [hr, heap_stored_self]
      exact fun he => hu (Option.some.inj he)
    · rw [heap_stored_ne _ _ _ hr]
      exact h ref'

theorem WellFormed.resume {s : BinderState} (h : s.binder.WellFormed) {round : Round}
    {rest : List String} {runId : String} {ref : Ref}
    (hl : s.binder.loop = .awaiting round rest runId ref) (now : ℚ)
    (out : Except PyExc (Option LifecycleState)) :
    (RunBinder.resume s now round rest runId ref out).binder.WellFormed := by
  have hframe := processPoll_frame s now runId ref out
  have htracked : ∀ r ref',
      (settle (processPoll s now runId ref out)).binder.bindings.get? r = some ref' →
        ref' < (settle (processPoll s now runId ref out)).binder.fresh ∧
          ((settle (processPoll s now runId ref out)).binder.heap ref').runId = r := by
    intro r ref' href
    obtain ⟨hlt, hid⟩ := h.tracked r ref' (hframe.bindings r ref' href)
    rw [hframe.fresh, (hframe.sameRun ref').runId]
    exact ⟨hlt, hid⟩
  unfold RunBinder.resume
  cases hp : processPoll s now runId ref out with
  | ok s' =>
    rw [hp] at htracked
    exact wellFormed_advance htracked (processPoll_hashable (h.hashable_awaiting hl) hp)
      (h.passed hl)
  | error r =>
    rw [hp] at htracked
    exact ⟨htracked, fun _ _ _ _ hl' => (by cases hl'), trivial, fun hlive => absurd rfl (hlive _)⟩

/-- A resumed loop waits for an object of the table that the poll has left. -/
theorem resume_next {s : BinderState} (hwf : s.binder.WellFormed) {now : ℚ} {round : Round}
    {rest : List String} {runId : String} {ref : Ref} {out : Except PyExc (Option LifecycleState)}
    (hl : s.binder.loop = .awaiting round rest runId ref) :
    ∃ loop, RunBinder.resume s now round rest runId ref out =
        ⟨(settle (processPoll s now runId ref out)).fleet,
          { (settle (processPoll s now runId ref out)).binder with loop }⟩ ∧
      ∀ round' rest' r ref', loop = .awaiting round' rest' r ref' →
        (settle (processPoll s now runId ref out)).binder.bindings.get? r = some ref' := by
  unfold RunBinder.resume
  cases processPoll s now runId ref out with
  | error r => exact ⟨_, rfl, fun _ _ _ _ h => (by cases h)⟩
  | ok t =>
    refine ⟨_, rfl, fun round' rest' r ref' h => ?_⟩
    have hround := advance_inRound t.binder round.ids rest round.visits (hwf.passed hl)
    exact (hround.awaiting _ _ _ _ h).2.1

end RunBinder

end DatabusSim
