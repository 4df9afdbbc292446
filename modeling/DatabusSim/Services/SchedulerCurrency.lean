import DatabusSim.Lib.Transition
import DatabusSim.Services.SchedulerSteps

/-!
# Which schedule a dispatch uses

A turn of `run_loop` works through the entry list it copied at its start, with the
clock and the `pre_run_idle_s` it read then. A reload that lands while one of its
dispatches waits for databus takes effect from the next turn on.
-/

namespace DatabusSim.Scheduler

open Transition

variable {fromisoformat : String → Except PyExc DateTime}

/-! ## The turn in progress -/

/-- `t` is what the last turn among the events `past` read, at the state `s₀` the loop
woke in. -/
structure TurnOf (fromisoformat : String → Except PyExc DateTime) (init : Scheduler)
    (past : List Event) (t : Tick) (s₀ : Scheduler) : Prop where
  began : ∃ before during, past = before ++ .tick t.now :: during ∧
    (∀ now, .tick now ∉ during) ∧ System.run (step fromisoformat) init before = some s₀
  reads : t = s₀.tickAt t.now

/-- The turn the loop is in, with what is left of its list. -/
def InTurn (fromisoformat : String → Except PyExc DateTime) (init : Scheduler)
    (past : List Event) (s : Scheduler) : Prop :=
  match s.loop with
  | .sleeping | .dead _ => True
  | .creating t _ rest _ | .locating t _ rest _ _ =>
      (∀ e ∈ rest, e ∈ t.entries) ∧ ∃ s₀, TurnOf fromisoformat init past t s₀

theorem TurnOf.snoc {init s₀ : Scheduler} {past : List Event} {t : Tick}
    (h : TurnOf fromisoformat init past t s₀) {ev : Event} (hev : ∀ now, ev ≠ .tick now) :
    TurnOf fromisoformat init (past ++ [ev]) t s₀ := by
  obtain ⟨⟨before, during, rfl, hduring, hr⟩, hreads⟩ := h
  refine ⟨⟨before, during ++ [ev], by simp, ?_, hr⟩, hreads⟩
  intro now hmem
  rcases List.mem_append.mp hmem with hmem | hmem
  · exact hduring now hmem
  · exact hev now (List.mem_singleton.mp hmem).symm

theorem turnOf_tick {init s : Scheduler} {past : List Event} (now : ℚ)
    (hr : System.run (step fromisoformat) init past = some s) :
    TurnOf fromisoformat init (past ++ [.tick now]) (s.tickAt now) s :=
  ⟨⟨past, [], rfl, by simp, hr⟩, rfl⟩

/-! ## What the loop posts -/

/-- A request posted in the turn `t`: for one of its entries, due by its clock. -/
structure PostedIn (fromisoformat : String → Except PyExc DateTime) (t : Tick) (p : Post) :
    Prop where
  turn : p.tick = t
  entry : p.entry ∈ t.entries
  request : Requests p.entry p.request
  due : Due fromisoformat t p.entry

variable (fromisoformat) in
/-- A turn that goes on posts at most one request before it suspends, from what is left
of its list, and keeps a part of that list. -/
theorem continueTick_posts (s : Scheduler) {t : Tick} {rest : List Entry}
    (hrest : ∀ e ∈ rest, e ∈ t.entries) :
    ((s.continueTick fromisoformat t rest).posts = s.posts ∨
        ∃ p, (s.continueTick fromisoformat t rest).posts = s.posts ++ [p] ∧
          PostedIn fromisoformat t p) ∧
      match (s.continueTick fromisoformat t rest).loop with
      | .sleeping | .dead _ => True
      | .creating t' _ rest' _ | .locating t' _ rest' _ _ =>
          t' = t ∧ ∀ e ∈ rest', e ∈ t.entries := by
  rcases continueTick_cases fromisoformat s t rest with
    ⟨-, heq⟩ | ⟨exc, -, heq⟩ | ⟨e, rest', hscan, heq⟩
  · rw [heq]
    exact ⟨.inl rfl, trivial⟩
  · rw [heq]
    exact ⟨.inl rfl, trivial⟩
  · obtain ⟨-, hdue, passed, rfl, -⟩ := scan_due fromisoformat hscan
    rw [heq]
    rcases beginDispatch_cases s t e rest' with ⟨exc, -, hb⟩ | ⟨request, hreq, hb⟩
    · rw [hb]
      exact ⟨.inl rfl, trivial⟩
    · rw [hb]
      refine ⟨.inr ⟨⟨e, t, request⟩, rfl, rfl, hrest e (by simp), buildRequest_ok.mp hreq, hdue⟩,
        rfl, fun d hd => hrest d ?_⟩
      exact List.mem_append_right _ (List.mem_cons_of_mem _ hd)

/-- `s'` has at most one request more than `s`, posted in a turn that is in progress
after `past`. -/
def PostsOne (fromisoformat : String → Except PyExc DateTime) (init : Scheduler)
    (past : List Event) (s s' : Scheduler) : Prop :=
  s'.posts = s.posts ∨ ∃ p t s₀, s'.posts = s.posts ++ [p] ∧ PostedIn fromisoformat t p ∧
    TurnOf fromisoformat init past t s₀

/-- A turn goes on in a state `s₁` that has the requests of `s`. -/
theorem TurnOf.continueTick {init s s₁ s₀ : Scheduler} {past : List Event} {t : Tick}
    {rest : List Entry} (ht : TurnOf fromisoformat init past t s₀) (hposts : s₁.posts = s.posts)
    (hrest : ∀ e ∈ rest, e ∈ t.entries) :
    InTurn fromisoformat init past (s₁.continueTick fromisoformat t rest) ∧
      PostsOne fromisoformat init past s (s₁.continueTick fromisoformat t rest) := by
  obtain ⟨hpost, hloop⟩ := continueTick_posts fromisoformat s₁ hrest
  constructor
  · unfold InTurn
    generalize (s₁.continueTick fromisoformat t rest).loop = loop at hloop ⊢
    cases loop with
    | sleeping => trivial
    | dead => trivial
    | creating t' =>
      obtain ⟨rfl, hrest'⟩ := hloop
      exact ⟨hrest', s₀, ht⟩
    | locating t' =>
      obtain ⟨rfl, hrest'⟩ := hloop
      exact ⟨hrest', s₀, ht⟩
  · unfold PostsOne
    rw [← hposts]
    rcases hpost with hsame | ⟨p, hp, hin⟩
    · exact .inl hsame
    · exact .inr ⟨p, t, s₀, hp, hin, ht⟩

/-- What a step posts, and the turn it leaves the loop in. -/
theorem step_posts {init s s' : Scheduler} {past : List Event} {ev : Event}
    (h : InTurn fromisoformat init past s)
    (hr : System.run (step fromisoformat) init past = some s)
    (hs : step fromisoformat s ev = some s') :
    InTurn fromisoformat init (past ++ [ev]) s' ∧
      PostsOne fromisoformat init (past ++ [ev]) s s' := by
  rcases step_cases hs with ⟨hf, hfile⟩ | ⟨now, rfl, hl, rfl⟩ |
    ⟨http, t, e, rest, request, rfl, hl, rfl⟩ | ⟨r, t, e, rest, request, runId, rfl, hl, rfl⟩
  · have hev : ∀ now, ev ≠ .tick now := by
      rintro now rfl
      cases hfile
    refine ⟨?_, .inl hf.posts⟩
    unfold InTurn at h ⊢
    rw [hf.loop]
    cases hl : s.loop <;> rw [hl] at h
    case sleeping => trivial
    case dead => trivial
    case creating =>
      obtain ⟨hrest, s₀, ht⟩ := h
      exact ⟨hrest, s₀, ht.snoc hev⟩
    case locating =>
      obtain ⟨hrest, s₀, ht⟩ := h
      exact ⟨hrest, s₀, ht.snoc hev⟩
  · exact (turnOf_tick now hr).continueTick rfl (fun e he => he)
  · rw [InTurn, hl] at h
    obtain ⟨hrest, s₀, ht⟩ := h
    have ht' : TurnOf fromisoformat init (past ++ [.createReply http]) t s₀ := ht.snoc (by simp)
    rcases createReply_cases fromisoformat s t e rest request http with
      ⟨resp, -, heq⟩ | ⟨exc, -, -, heq⟩ | ⟨exc, -, -, heq⟩
    · rw [heq]
      exact ⟨⟨hrest, s₀, ht'⟩, .inl rfl⟩
    · rw [heq]
      exact ht'.continueTick rfl hrest
    · rw [heq]
      exact ⟨trivial, .inl rfl⟩
  · rw [InTurn, hl] at h
    obtain ⟨hrest, s₀, ht⟩ := h
    exact (ht.snoc (by simp)).continueTick rfl hrest

/-! ## Every run of the scheduler -/

/-- The step issues `p`. -/
def Issues (s s' : Scheduler) (p : Post) : Prop := s'.posts = s.posts ++ [p]

/-- The request is that of an entry in the schedule as loaded when the turn in progress
began (the last tick, in the state `s₀`), due by the clock and the `pre_run_idle_s` of
that moment. -/
def IssuedFromTurn (fromisoformat : String → Except PyExc DateTime) (init : Scheduler)
    (past : List Event) (p : Post) : Prop :=
  ∃ before now during s₀, past = before ++ .tick now :: during ∧ (∀ now', .tick now' ∉ during) ∧
    System.run (step fromisoformat) init before = some s₀ ∧
    p.entry ∈ s₀.entries ∧ Requests p.entry p.request ∧
    ∃ start preIdle, startOf fromisoformat p.entry = .ok start ∧
      floatOfInt s₀.defaults.preRunIdleS = .ok preIdle ∧ start - preIdle ≤ now

/-- Every request `run_loop` issues comes from the schedule its turn began with. -/
theorem issued_from_turn (fromisoformat : String → Except PyExc DateTime)
    (file : Except PyExc PyVal) :
    System.Throughout (step fromisoformat) (start file) fun past s ev s' =>
      ∀ p, Issues s s' p → IssuedFromTurn fromisoformat (start file) (past ++ [ev]) p := by
  intro past s ev s' hr hs p hp
  have hstart : InTurn fromisoformat (start file) [] (start file) := trivial
  have hturn : InTurn fromisoformat (start file) past s :=
    history_invariant hstart (fun past s e s' h hr hs => (step_posts h hr hs).1) hr
  rcases (step_posts hturn hr hs).2 with hsame | ⟨q, t, s₀, hq, hin, ht⟩
  · rw [Issues, hsame] at hp
    simp at hp
  · obtain rfl : q = p := by
      rw [Issues, hq] at hp
      simpa using hp
    obtain ⟨⟨before, during, hpast, hduring, hbefore⟩, hreads⟩ := ht
    obtain ⟨start, preIdle, hstart, hpre, hdue⟩ := hin.due
    have hentry := hin.entry
    rw [hreads] at hentry hpre
    exact ⟨before, t.now, during, s₀, hpast, hduring, hbefore, hentry, hin.request,
      start, preIdle, hstart, hpre, hdue⟩

/-! ## A reload during a turn -/

/-- The request is that of an entry of the schedule loaded last, and the clock, which has
moved on from the turn's, has reached its start less the loaded idle time. -/
def IssuedFromLoaded (fromisoformat : String → Except PyExc DateTime) (s : Scheduler)
    (p : Post) : Prop :=
  ∃ e ∈ s.entries, e.id = p.entry.id ∧ Requests e p.request ∧
    ∃ clock start preIdle, p.tick.now ≤ clock ∧ startOf fromisoformat e = .ok start ∧
      floatOfInt s.defaults.preRunIdleS = .ok preIdle ∧ start - preIdle ≤ clock

/-- Two entries are due; the second is taken off the schedule, and the schedule is
reloaded, while the first waits for `create_run`. -/
def removedMidTurn : List Event :=
  [.load, .tick 40000, .edit (scheduleOf [shuttle "A" "unit-01"]), .reload,
    .createReply (.response 400 none)]

/-- The request for the second is issued all the same. -/
theorem removed_entry_dispatched :
    ¬ System.Always (step noTimestamp) (fun s _ s' => ∀ p, Issues s s' p →
        IssuedFromLoaded noTimestamp s p)
      (start (scheduleOf [shuttle "A" "unit-01", shuttle "B" "unit-01"])) removedMidTurn := by
  intro h
  let init := start (scheduleOf [shuttle "A" "unit-01", shuttle "B" "unit-01"])
  let past : List Event := [.load, .tick 40000, .edit (scheduleOf [shuttle "A" "unit-01"]), .reload]
  have hrun : ((System.run (step noTimestamp) init past).bind fun s =>
      (step noTimestamp s (.createReply (.response 400 none))).map fun s' =>
        (s.entries.map (·.id), s.posts.map (·.entry.id), s'.posts.map (·.entry.id))) =
      some ([.str "A"], [.str "A"], [.str "A", .str "B"]) := by
    decide +kernel
  obtain ⟨s, hs, hrun⟩ := Option.bind_eq_some_iff.mp hrun
  obtain ⟨s', hs', hrun⟩ := Option.map_eq_some_iff.mp hrun
  simp only [Prod.mk.injEq] at hrun
  obtain ⟨hentries, hposts, hposts'⟩ := hrun
  have hstart : InTurn noTimestamp init [] init := trivial
  have hturn : InTurn noTimestamp init past s :=
    history_invariant hstart (fun past s e s' h hr hs => (step_posts h hr hs).1) hs
  rcases (step_posts hturn hs hs').2 with hsame | ⟨p, t, s₀, hp, -⟩
  · rw [hsame, hposts] at hposts'
    simp at hposts'
  · rw [hp, List.map_append, hposts] at hposts'
    have hid : p.entry.id = .str "B" := by simpa using hposts'
    obtain ⟨e, he, heid, -⟩ := always_iff_splits.mp h past _ [] s s' rfl hs hs' p hp
    have hmem := List.mem_map_of_mem (f := (·.id)) he
    rw [hentries, heid, hid] at hmem
    simp at hmem

end DatabusSim.Scheduler
