import DatabusSim.Lib.Transition
import DatabusSim.Services.SchedulerSteps

/-!
# At most one request, exactly one tracked run

The books of the scheduler: statuses, recorded run ids, issued requests and tracked
runs. `Books` says how they agree between two dispatches, `Ledger` what holds of them
wherever the loop is suspended. A reload only touches the books of ids it has never
seen, so the two survive any interleaving of it with a dispatch.
-/

namespace DatabusSim

/-- The moves of an entry's status: `pending`, `requested`, then `initialized` or
`failed`. -/
inductive StatusMove : Status → Status → Prop
  | stay (st : Status) : StatusMove st st
  | request : StatusMove .pending .requested
  | succeed : StatusMove .requested .initialized
  | fail : StatusMove .requested .failed

namespace Scheduler

open Transition

/-! ## The books -/

/-- A run handed to the binder is the one recorded for its entry, with the vehicle, trip
and shape of the entry whose request created it. -/
structure TrackedFor (s : Scheduler) (tr : Tracked) : Prop where
  recorded : s.runIds.get? tr.entryId = some tr.runId
  posted : ∃ p ∈ s.posts, p.entry.id = tr.entryId ∧
    PyVal.getItem? p.entry.fields "vehicle_id" = some (.str tr.vehicleId) ∧
    PyVal.getItem? p.entry.fields "trip_id" = some (.str tr.tripId) ∧
    PyVal.getItem? p.entry.fields "shape_id" = some (.str tr.shapeId)

/-- How requests, run ids, tracked runs and statuses agree; `open?` is the entry, if
any, whose run id is recorded and still on its way to the binder. -/
structure Books (s : Scheduler) (open? : Option Key) : Prop where
  posted : ∀ p ∈ s.posts, s.status p.entry.id ≠ .pending
  postedOnce : (s.posts.map (·.entry.id)).Nodup
  built : ∀ p ∈ s.posts, Requests p.entry p.request
  recorded : ∀ id, (s.runIds.get? id).isSome ↔ s.status id = .initialized
  tracked : ∀ tr ∈ s.tracks, TrackedFor s tr
  trackedOnce : (s.tracks.map (·.entryId)).Nodup
  delivered : ∀ id, (s.runIds.get? id).isSome → open? = some id ∨ id ∈ s.tracks.map (·.entryId)
  undelivered : ∀ id, open? = some id → id ∉ s.tracks.map (·.entryId)

/-- The invariant of the loop: the books agree, and the dispatch in flight is on its
way from `requested` to a tracked run. -/
def Ledger (s : Scheduler) : Prop :=
  match s.loop with
  | .sleeping | .dead _ => s.Books none
  | .creating t e _ request =>
      s.Books none ∧ s.status e.id = .requested ∧ ⟨e, t, request⟩ ∈ s.posts
  | .locating t e _ request runId =>
      s.Books (some e.id) ∧ s.runIds.get? e.id = some runId ∧ ⟨e, t, request⟩ ∈ s.posts

theorem Books.congr {s s' : Scheduler} {open? : Option Key} (h : s.Books open?)
    (hstatus : ∀ id, s'.status id = s.status id) (hruns : s'.runIds = s.runIds)
    (hposts : s'.posts = s.posts) (htracks : s'.tracks = s.tracks) : s'.Books open? where
  posted := by
    rw [hposts]
    intro p hp
    rw [hstatus]
    exact h.posted p hp
  postedOnce := by rw [hposts]; exact h.postedOnce
  built := by rw [hposts]; exact h.built
  recorded := by
    intro id
    rw [hruns, hstatus]
    exact h.recorded id
  tracked := by
    rw [htracks]
    intro tr htr
    obtain ⟨hr, hp⟩ := h.tracked tr htr
    exact ⟨by rw [hruns]; exact hr, by rw [hposts]; exact hp⟩
  trackedOnce := by rw [htracks]; exact h.trackedOnce
  delivered := by rw [hruns, htracks]; exact h.delivered
  undelivered := by rw [htracks]; exact h.undelivered

theorem Books.publishSnapshot {s : Scheduler} {open? : Option Key} (h : s.Books open?) :
    (s.publishSnapshot true).Books open? :=
  h.congr (fun _ => rfl) rfl rfl rfl

theorem books_start (file : Except PyExc PyVal) : (start file).Books none where
  posted := by simp [start]
  postedOnce := by simp [start]
  built := by simp [start]
  recorded := by
    intro id
    simp [start, status, Dict.getD]
  tracked := by simp [start]
  trackedOnce := by simp [start]
  delivered := by simp [start]
  undelivered := by simp

/-! ## One entry's books -/

/-- A status may be set as long as `pending` and `initialized` are left out. -/
theorem Books.setStatus {s : Scheduler} (h : s.Books none) {eid : Key} {st : Status}
    (hst : st ≠ .pending) (hinit : st ≠ .initialized) (hold : s.status eid ≠ .initialized) :
    (s.setStatus eid st).Books none where
  posted := by
    intro p hp
    by_cases hid : p.entry.id = eid
    · rw [status_setStatus, if_pos hid]
      exact hst
    · rw [status_setStatus_ne s st hid]
      exact h.posted p hp
  postedOnce := h.postedOnce
  built := h.built
  recorded := by
    intro id
    by_cases hid : id = eid
    · subst hid
      rw [status_setStatus_self]
      exact ⟨fun hr => absurd ((h.recorded id).mp hr) hold, fun hi => absurd hi hinit⟩
    · rw [status_setStatus_ne s st hid]
      exact h.recorded id
  tracked := fun tr htr => ⟨(h.tracked tr htr).recorded, (h.tracked tr htr).posted⟩
  trackedOnce := h.trackedOnce
  delivered := h.delivered
  undelivered := h.undelivered

/-- A new request is the first one of its entry. -/
theorem Books.post {s : Scheduler} (h : s.Books none) (t : Tick) {e : Entry}
    {request : CreateRunRequest} (hst : s.status e.id ≠ .pending)
    (hnew : ∀ p ∈ s.posts, p.entry.id ≠ e.id) (hreq : Requests e request) :
    ({ s with posts := s.posts ++ [⟨e, t, request⟩] } : Scheduler).Books none where
  posted := by
    intro p hp
    rcases List.mem_append.mp hp with hp | hp
    · exact h.posted p hp
    · rw [List.mem_singleton.mp hp]
      exact hst
  postedOnce := by
    rw [List.map_append]
    refine List.nodup_append.mpr ⟨h.postedOnce, List.nodup_singleton _, ?_⟩
    intro a ha b hb
    obtain ⟨p, hp, rfl⟩ := List.mem_map.mp ha
    rw [List.mem_singleton.mp hb]
    exact hnew p hp
  built := by
    intro p hp
    rcases List.mem_append.mp hp with hp | hp
    · exact h.built p hp
    · rw [List.mem_singleton.mp hp]
      exact hreq
  recorded := h.recorded
  tracked := by
    intro tr htr
    obtain ⟨hr, p, hp, hfields⟩ := h.tracked tr htr
    exact ⟨hr, p, List.mem_append_left _ hp, hfields⟩
  trackedOnce := h.trackedOnce
  delivered := h.delivered
  undelivered := h.undelivered

/-- Recording the run id of a requested entry opens its delivery. -/
theorem Books.record {s : Scheduler} (h : s.Books none) {eid : Key} {runId : String}
    (hst : s.status eid = .requested) :
    (({ s with runIds := s.runIds.set eid runId } : Scheduler).setStatus eid .initialized).Books
      (some eid) := by
  -- a requested entry has no run id yet, so no tracked run either
  have hnone : ¬ (s.runIds.get? eid).isSome := by
    rw [h.recorded, hst]
    simp
  have hfresh : ∀ tr ∈ s.tracks, tr.entryId ≠ eid := by
    intro tr htr hid
    have hr := (h.tracked tr htr).recorded
    rw [hid] at hr
    exact hnone (by rw [hr]; rfl)
  exact
    { posted := by
        intro p hp
        by_cases hid : p.entry.id = eid
        · rw [status_setStatus, if_pos hid]
          simp
        · rw [status_setStatus_ne _ _ hid]
          exact h.posted p hp
      postedOnce := h.postedOnce
      built := h.built
      recorded := by
        intro id
        show ((s.runIds.set eid runId).get? id).isSome ↔ _
        by_cases hid : id = eid
        · rw [hid, status_setStatus_self, Dict.get?_set_self]
          simp
        · rw [status_setStatus_ne _ _ hid, Dict.get?_set_ne _ _ hid]
          exact h.recorded id
      tracked := by
        intro tr htr
        obtain ⟨hr, hp⟩ := h.tracked tr htr
        exact ⟨(Dict.get?_set_ne _ _ (hfresh tr htr)).trans hr, hp⟩
      trackedOnce := h.trackedOnce
      delivered := by
        intro id hid
        change ((s.runIds.set eid runId).get? id).isSome at hid
        by_cases he : id = eid
        · exact .inl (congrArg some he.symm)
        · rw [Dict.get?_set_ne _ _ he] at hid
          rcases h.delivered id hid with hn | ht
          · cases hn
          · exact .inr ht
      undelivered := by
        intro id he hid
        cases he
        obtain ⟨tr, htr, rfl⟩ := List.mem_map.mp hid
        exact hfresh tr htr rfl }

/-- The call of `binder.track` closes the delivery. -/
theorem Books.track {s : Scheduler} {tr : Tracked} (h : s.Books (some tr.entryId))
    (htr : TrackedFor s tr) (confirms : List String) :
    ({ s with tracks := s.tracks ++ [tr], confirms } : Scheduler).Books none where
  posted := h.posted
  postedOnce := h.postedOnce
  built := h.built
  recorded := h.recorded
  tracked := by
    intro tr' htr'
    rcases List.mem_append.mp htr' with htr' | htr'
    · obtain ⟨hr, hp⟩ := h.tracked tr' htr'
      exact ⟨hr, hp⟩
    · rw [List.mem_singleton.mp htr']
      exact ⟨htr.recorded, htr.posted⟩
  trackedOnce := by
    rw [List.map_append]
    refine List.nodup_append.mpr ⟨h.trackedOnce, List.nodup_singleton _, ?_⟩
    intro a ha b hb hab
    have hid : a = tr.entryId := hab.trans (List.mem_singleton.mp hb)
    exact h.undelivered _ rfl (hid ▸ ha)
  delivered := by
    intro id hid
    rw [List.map_append]
    rcases h.delivered id hid with ho | ht
    · cases ho
      exact .inr (List.mem_append_right _ (List.mem_singleton_self _))
    · exact .inr (List.mem_append_left _ ht)
  undelivered := by simp

/-! ## The loop keeps the ledger -/

variable {fromisoformat : String → Except PyExc DateTime}

/-- A dispatch of a pending entry: its status becomes `requested`, and its request is
the first one. -/
theorem ledger_beginDispatch {s : Scheduler} (h : s.Books none) {t : Tick} {e : Entry}
    {rest : List Entry} (hp : s.status e.id = .pending) : (s.beginDispatch t e rest).Ledger := by
  have hbooks : (s.setStatus e.id .requested).Books none :=
    h.setStatus (by simp) (by simp) (by rw [hp]; simp)
  rcases beginDispatch_cases s t e rest with ⟨exc, -, heq⟩ | ⟨request, hb, heq⟩
  · rw [heq]
    exact hbooks.congr (fun _ => rfl) rfl rfl rfl
  · rw [heq]
    have hrequested : (s.setStatus e.id .requested).status e.id ≠ .pending := by simp
    have hpost := hbooks.post t hrequested
      (fun p hp' hid => h.posted p hp' (by rw [hid, hp])) (buildRequest_ok.mp hb)
    refine ⟨hpost.congr (fun _ => rfl) rfl rfl rfl, status_setStatus_self s e.id .requested, ?_⟩
    exact List.mem_append_right _ (List.mem_singleton_self _)

theorem ledger_continueTick {s : Scheduler} (h : s.Books none) (t : Tick) (rest : List Entry) :
    (s.continueTick fromisoformat t rest).Ledger := by
  rcases continueTick_cases fromisoformat s t rest with
    ⟨-, heq⟩ | ⟨exc, -, heq⟩ | ⟨e, rest', hscan, heq⟩
  · rw [heq]
    exact h.congr (fun _ => rfl) rfl rfl rfl
  · rw [heq]
    exact h.congr (fun _ => rfl) rfl rfl rfl
  · rw [heq]
    exact ledger_beginDispatch h (scan_due fromisoformat hscan).1

theorem Frame.ledger {s s' : Scheduler} (hf : Frame s s') (h : s.Ledger) : s'.Ledger := by
  have hcongr {open? : Option Key} (hb : s.Books open?) : s'.Books open? :=
    hb.congr hf.status hf.runIds hf.posts hf.tracks
  unfold Ledger at h ⊢
  rw [hf.loop]
  cases hl : s.loop <;> rw [hl] at h
  case sleeping => exact hcongr h
  case dead => exact hcongr h
  case creating t e rest request =>
    obtain ⟨hb, hst, hp⟩ := h
    exact ⟨hcongr hb, (hf.status e.id).trans hst, by rw [hf.posts]; exact hp⟩
  case locating t e rest request runId =>
    obtain ⟨hb, hr, hp⟩ := h
    exact ⟨hcongr hb, by rw [hf.runIds]; exact hr, by rw [hf.posts]; exact hp⟩

theorem ledger_step {s s' : Scheduler} {ev : Event} (h : s.Ledger)
    (hs : step fromisoformat s ev = some s') : s'.Ledger := by
  rcases step_cases hs with ⟨hf, -⟩ | ⟨now, -, hl, rfl⟩ | ⟨http, t, e, rest, request, -, hl, rfl⟩ |
    ⟨r, t, e, rest, request, runId, -, hl, rfl⟩
  · exact hf.ledger h
  · rw [Ledger, hl] at h
    exact ledger_continueTick h _ _
  · rw [Ledger, hl] at h
    obtain ⟨hb, hst, hp⟩ := h
    -- the run id is recorded, the entry has failed, or the loop ends with it requested
    rcases createReply_cases fromisoformat s t e rest request http with
      ⟨resp, -, heq⟩ | ⟨exc, -, -, heq⟩ | ⟨exc, -, -, heq⟩
    · rw [heq]
      refine ⟨(hb.record hst).congr (fun _ => rfl) rfl rfl rfl, ?_, hp⟩
      exact Dict.get?_set_self s.runIds e.id resp.runId
    · rw [heq]
      have hfail : (s.setStatus e.id .failed).Books none :=
        hb.setStatus (by simp) (by simp) (by rw [hst]; simp)
      exact ledger_continueTick hfail.publishSnapshot t rest
    · rw [heq]
      exact hb.congr (fun _ => rfl) rfl rfl rfl
  · rw [Ledger, hl] at h
    obtain ⟨hb, hr, hp⟩ := h
    have hreq := hb.built _ hp
    exact ledger_continueTick (hb.track ⟨hr, _, hp, rfl, hreq.vehicle, hreq.trip, hreq.shape⟩ _)
      t rest

/-! ## The moves of the statuses -/

variable (fromisoformat) in
theorem move_continueTick (s : Scheduler) (t : Tick) (rest : List Entry) (id : Key) :
    StatusMove (s.status id) ((s.continueTick fromisoformat t rest).status id) := by
  rcases continueTick_cases fromisoformat s t rest with
    ⟨-, heq⟩ | ⟨exc, -, heq⟩ | ⟨e, rest', hscan, heq⟩
  · rw [heq]
    exact .stay _
  · rw [heq]
    exact .stay _
  · have hst : (s.continueTick fromisoformat t rest).status id =
        (s.setStatus e.id .requested).status id := by
      rw [heq]
      rcases beginDispatch_cases s t e rest' with ⟨exc, -, hb⟩ | ⟨request, -, hb⟩ <;>
        exact congrArg (·.status id) hb
    have hp : s.status e.id = .pending := (scan_due fromisoformat hscan).1
    rw [hst]
    by_cases hid : id = e.id
    · rw [hid, status_setStatus_self, hp]
      exact .request
    · rw [status_setStatus_ne s .requested hid]
      exact .stay _

theorem move_step {s s' : Scheduler} {ev : Event} (h : s.Ledger)
    (hs : step fromisoformat s ev = some s') (id : Key) :
    StatusMove (s.status id) (s'.status id) := by
  rcases step_cases hs with ⟨hf, -⟩ | ⟨now, -, hl, rfl⟩ | ⟨http, t, e, rest, request, -, hl, rfl⟩ |
    ⟨r, t, e, rest, request, runId, -, hl, rfl⟩
  · rw [hf.status]
    exact .stay _
  · exact move_continueTick fromisoformat s _ _ id
  · rw [Ledger, hl] at h
    obtain ⟨-, hst, -⟩ := h
    rcases createReply_cases fromisoformat s t e rest request http with
      ⟨resp, -, heq⟩ | ⟨exc, -, -, heq⟩ | ⟨exc, -, -, heq⟩
    · have hid : (s.createReply fromisoformat t e rest request http).status id =
          (({ s with runIds := s.runIds.set e.id resp.runId } : Scheduler).setStatus e.id
            .initialized).status id := by rw [heq]; rfl
      rw [hid]
      by_cases he : id = e.id
      · rw [he, status_setStatus_self, hst]
        exact .succeed
      · rw [status_setStatus_ne _ _ he]
        exact .stay _
    · rw [heq]
      have hmove := move_continueTick fromisoformat
        ((s.setStatus e.id .failed).publishSnapshot true) t rest id
      change StatusMove ((s.setStatus e.id .failed).status id) _ at hmove
      by_cases he : id = e.id
      · -- the failed entry is not dispatched again in the rest of the turn
        rw [he, status_setStatus_self] at hmove
        rw [he, hst]
        generalize Scheduler.status _ _ = st at hmove
        cases hmove
        exact .fail
      · rwa [status_setStatus_ne s .failed he] at hmove
    · rw [heq]
      exact .stay _
  · exact move_continueTick fromisoformat (s.trackRun e request runId r) t rest id

/-! ## Every run of the scheduler -/

/-- The dispatch of `id` has its run id and still waits for the terminal stop. -/
def Locating (s : Scheduler) (id : Key) : Prop :=
  ∃ t e rest request runId, s.loop = .locating t e rest request runId ∧ e.id = id

/-- At most one request for an entry, a run id exactly for the initialized ones, and
each recorded run tracked exactly once as soon as its dispatch is complete. -/
structure DispatchedOnce (fromisoformat : String → Except PyExc DateTime) (s : Scheduler) :
    Prop where
  requestedOnce : (s.posts.map (·.entry.id)).Nodup
  recorded : ∀ id, (s.runIds.get? id).isSome ↔ s.status id = .initialized
  tracked : ∀ tr ∈ s.tracks, TrackedFor s tr
  trackedOnce : (s.tracks.map (·.entryId)).Nodup
  /-- Where databus names its runs apart, no run id is tracked twice. -/
  runTrackedOnce :
    (∀ i j run, s.runIds.get? i = some run → s.runIds.get? j = some run → i = j) →
      (s.tracks.map (·.runId)).Nodup
  delivered : ∀ id run, s.runIds.get? id = some run →
    Locating s id ∨ ∃ tr ∈ s.tracks, tr.entryId = id ∧ tr.runId = run
  /-- The GET of the terminal stop may come to anything: the run is tracked. -/
  completes : ∀ id, Locating s id → ∀ r, ∃ s', step fromisoformat s (.locateReply r) = some s' ∧
    ∃ tr ∈ s'.tracks, tr.entryId = id ∧ s.runIds.get? id = some tr.runId

theorem tracks_continueTick (s : Scheduler) (t : Tick) (rest : List Entry) :
    (s.continueTick fromisoformat t rest).tracks = s.tracks := by
  rcases continueTick_cases fromisoformat s t rest with
    ⟨-, heq⟩ | ⟨exc, -, heq⟩ | ⟨e, rest', -, heq⟩
  · rw [heq]
  · rw [heq]
  · rw [heq]
    rcases beginDispatch_cases s t e rest' with ⟨exc, -, hb⟩ | ⟨request, -, hb⟩ <;>
      exact congrArg (·.tracks) hb

/-- Two tracked runs of one run id are one, where no two entries share a run id. -/
theorem Books.runTrackedOnce {s : Scheduler} {open? : Option Key} (h : s.Books open?)
    (hinj : ∀ i j run, s.runIds.get? i = some run → s.runIds.get? j = some run → i = j) :
    (s.tracks.map (·.runId)).Nodup := by
  refine List.pairwise_map.mpr ((List.pairwise_map.mp h.trackedOnce).imp_of_mem ?_)
  intro a b ha hb hne hrun
  have hb' := (h.tracked b hb).recorded
  rw [← hrun] at hb'
  exact hne (hinj _ _ _ (h.tracked a ha).recorded hb')

theorem Ledger.dispatchedOnce {s : Scheduler} (h : s.Ledger) :
    DispatchedOnce fromisoformat s := by
  obtain ⟨open?, hb, hopen⟩ : ∃ open?, s.Books open? ∧ ∀ id, open? = some id → Locating s id := by
    unfold Ledger at h
    cases hl : s.loop <;> rw [hl] at h
    case sleeping => exact ⟨none, h, by simp⟩
    case dead => exact ⟨none, h, by simp⟩
    case creating => exact ⟨none, h.1, by simp⟩
    case locating t e rest request runId =>
      exact ⟨some e.id, h.1, fun id hid => ⟨t, e, rest, request, runId, hl, Option.some.inj hid⟩⟩
  refine ⟨hb.postedOnce, hb.recorded, hb.tracked, hb.trackedOnce, hb.runTrackedOnce, ?_, ?_⟩
  · intro id run hrun
    rcases hb.delivered id (by rw [hrun]; rfl) with ho | ht
    · exact .inl (hopen id ho)
    · obtain ⟨tr, htr, rfl⟩ := List.mem_map.mp ht
      refine .inr ⟨tr, htr, rfl, ?_⟩
      have hr := (hb.tracked tr htr).recorded
      rw [hrun] at hr
      exact (Option.some.inj hr).symm
  · rintro id ⟨t, e, rest, request, runId, hl, rfl⟩ r
    refine ⟨s.locateReply fromisoformat t e rest request runId r, by simp only [step, hl], ?_⟩
    unfold locateReply
    rw [tracks_continueTick]
    rw [Ledger, hl] at h
    exact ⟨_, List.mem_append_right _ (List.mem_singleton_self _), rfl, h.2.1⟩

/-- Along every run of the scheduler, whatever the file and however the loop, its HTTP
calls and the file operations interleave, statuses only move forward and dispatches
are made once. -/
theorem dispatch_once (fromisoformat : String → Except PyExc DateTime)
    (file : Except PyExc PyVal) (es : List Event) :
    System.Always (step fromisoformat)
      (fun s _ s' => (∀ id, StatusMove (s.status id) (s'.status id)) ∧
        DispatchedOnce fromisoformat s') (start file) es := by
  refine always_of_step (I := Ledger) ?_ ?_ es
  rotate_left
  · exact books_start file
  intro s ev s' h hs
  have h' := ledger_step h hs
  exact ⟨h', move_step h hs, h'.dispatchedOnce⟩

end Scheduler

end DatabusSim
