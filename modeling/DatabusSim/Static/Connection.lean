import DatabusSim.Lib.Transition
import Mathlib.Algebra.Ring.Nat
import Mathlib.Data.List.Basic

/-!
# The connection of the browser client

`connectMqtt` in `static/lib/ws_client.js` opens a socket, and another one some time after the
close of the last; `end` closes the connection for good. The browser opens and closes the sockets
and hands over their messages when it likes, but in the order of the WebSocket standard: a socket
is opened and closed at most once, and has messages only while it is open.

The client never holds two sockets, nor a socket and a pending reconnect, and until `end` it never
runs out of both (`one_connection`).
-/

namespace DatabusSim.WsClient

open Transition

/-! ## The client -/

/-- `readyState`. -/
inductive Phase where
  | connecting
  | opened
  | closing
  | closed
  deriving DecidableEq

/-- `ws.close()`. -/
def Phase.close : Phase → Phase
  | .closed => .closed
  | _ => .closing

/-- The sockets in the order they were made, `ws` being the last. `timers` are the times from which
the reconnects are due, in milliseconds, `statuses` what `onStatus` was called with and `inbox` the
messages, each with the number of its socket. -/
structure Connection (M : Type) where
  sockets : List Phase := []
  timers : List Nat := []
  dead : Bool := false
  backoff : Nat := 2000
  clock : Nat := 0
  statuses : List Bool := []
  inbox : List (Nat × M) := []

namespace Connection

inductive Event (M : Type) where
  | pass (ms : Nat)
  | opened (i : Nat)
  | message (i : Nat) (m : M)
  | closed (i : Nat)
  /-- A timer that is due. -/
  | reconnect (j : Nat)
  /-- `end()`. -/
  | ended

variable {M : Type}

/-- `connect`. -/
def connect (c : Connection M) : Connection M :=
  if c.dead then c else { c with sockets := c.sockets ++ [.connecting] }

/-- The rest of the `close` handler. -/
def scheduleReconnect (c : Connection M) : Connection M :=
  if c.dead then c
  else { c with timers := c.timers ++ [c.clock + c.backoff], backoff := min (c.backoff * 2) 30000 }

def onOpen (c : Connection M) (i : Nat) : Connection M :=
  { c with sockets := c.sockets.set i .opened, backoff := 2000, statuses := c.statuses ++ [true] }

def onClose (c : Connection M) (i : Nat) : Connection M :=
  scheduleReconnect
    { c with sockets := c.sockets.set i .closed, statuses := c.statuses ++ [false] }

/-- `end`. -/
def tearDown (c : Connection M) : Connection M :=
  { c with
    dead := true
    sockets := c.sockets.modify (c.sockets.length - 1) Phase.close }

def step (c : Connection M) : Event M → Option (Connection M)
  | .pass ms => some { c with clock := c.clock + ms }
  | .opened i => if c.sockets[i]? = some .connecting then some (c.onOpen i) else none
  | .message i m =>
      if c.sockets[i]? = some .opened then some { c with inbox := c.inbox ++ [(i, m)] } else none
  | .closed i =>
      match c.sockets[i]? with
      | none => none
      | some .closed => none
      | some _ => some (c.onClose i)
  | .reconnect j =>
      match c.timers[j]? with
      | none => none
      | some due =>
          if due ≤ c.clock then some (connect { c with timers := c.timers.eraseIdx j }) else none
  | .ended => some c.tearDown

/-- `connectMqtt()`. -/
def start : Connection M := connect {}

/-- The sockets that are not closed. -/
def live (c : Connection M) : Nat := (c.sockets.filter (· ≠ .closed)).length

/-- The number of closes since a socket was last opened. -/
def failures (past : List (Event M)) : Nat :=
  past.foldl (fun n ev => match ev with | .opened _ => 0 | .closed _ => n + 1 | _ => n) 0

/-! ## What is held -/

/-- What goes with the newest socket: a reconnect is pending only once it is closed, and then
always, but for the end of the connection. -/
def Phase.Goes (p : Phase) (dead : Bool) (timers : Nat) : Prop :=
  match p with
  | .connecting => dead = false ∧ timers = 0
  | .opened => dead = false ∧ timers = 0
  | .closing => dead = true ∧ timers = 0
  | .closed => timers ≤ 1 ∧ (dead = false → timers = 1)

/-- The sockets but the last are closed; the last is number `n`. -/
structure Held (past : List (Event M)) (n : Nat) (p : Phase) (c : Connection M) : Prop where
  sockets : c.sockets = List.replicate n .closed ++ [p]
  goes : Phase.Goes p c.dead c.timers.length
  status : c.dead = false → (c.statuses.getLast? = some true ↔ p = .opened)
  due : ∀ d ∈ c.timers, d ≤ c.clock + 30000
  wait : c.dead = false → c.backoff = min (2000 * 2 ^ failures past) 30000
  ordered : (c.inbox.map (·.1)).Pairwise (· ≤ ·)
  bounded : ∀ m ∈ c.inbox, m.1 ≤ n

theorem held_start : Held [] 0 .connecting (start : Connection M) where
  sockets := rfl
  goes := ⟨rfl, rfl⟩
  status _ := ⟨fun h => (nomatch h), fun h => (nomatch h)⟩
  due _ hd := absurd hd List.not_mem_nil
  wait _ := rfl
  ordered := .nil
  bounded _ hm := absurd hm List.not_mem_nil

theorem failures_concat (past : List (Event M)) (ev : Event M) :
    failures (past ++ [ev]) =
      match ev with
      | .opened _ => 0
      | .closed _ => failures past + 1
      | _ => failures past := by
  unfold failures
  rw [List.foldl_concat]

/-- A socket that is not closed is the newest. -/
theorem Held.newest {past : List (Event M)} {n : Nat} {p q : Phase} {c : Connection M}
    (h : Held past n p c) {i : Nat} (hi : c.sockets[i]? = some q) (hq : q ≠ .closed) :
    i = n ∧ q = p := by
  rw [h.sockets, List.getElem?_append, List.length_replicate] at hi
  split at hi
  · rename_i hlt
    rw [List.getElem?_replicate, if_pos hlt] at hi
    exact absurd (Option.some.inj hi).symm hq
  · rw [List.getElem?_singleton] at hi
    split at hi
    · cases hi
      exact ⟨by omega, rfl⟩
    · cases hi

theorem set_newest (n : Nat) (p q : Phase) :
    (List.replicate n Phase.closed ++ [p]).set n q = List.replicate n .closed ++ [q] := by
  rw [List.set_append_right _ _ (by simp), List.length_replicate, Nat.sub_self, List.set_cons_zero]

/-- The wait doubles, up to half a minute. -/
theorem backoff_succ (k : Nat) :
    min (min (2000 * 2 ^ k) 30000 * 2) 30000 = min (2000 * 2 ^ (k + 1)) 30000 := by
  rw [pow_succ]
  omega

theorem Held.pass {past : List (Event M)} {n : Nat} {p : Phase} {c : Connection M}
    (h : Held past n p c) (ms : Nat) :
    Held (past ++ [.pass ms]) n p { c with clock := c.clock + ms } where
  sockets := h.sockets
  goes := h.goes
  status := h.status
  due d hd := by
    have := h.due d hd
    show d ≤ c.clock + ms + 30000
    omega
  wait := by
    rw [failures_concat]
    exact h.wait
  ordered := h.ordered
  bounded := h.bounded

/-- Only a socket that is still connecting is opened. -/
theorem Held.opened {past : List (Event M)} {n : Nat} {p : Phase} {c : Connection M}
    (h : Held past n p c) {i : Nat} (hi : c.sockets[i]? = some .connecting) :
    Held (past ++ [.opened i]) n .opened (c.onOpen i) := by
  obtain ⟨rfl, rfl⟩ := h.newest hi (by decide)
  refine ⟨?_, h.goes, fun _ => ?_, h.due, fun _ => ?_, h.ordered, h.bounded⟩
  · show c.sockets.set i .opened = _
    rw [h.sockets, set_newest]
  · simp [onOpen]
  · rw [failures_concat]
    rfl

theorem Held.message {past : List (Event M)} {n : Nat} {p : Phase} {c : Connection M}
    (h : Held past n p c) {i : Nat} (m : M) (hi : c.sockets[i]? = some .opened) :
    Held (past ++ [.message i m]) n p { c with inbox := c.inbox ++ [(i, m)] } := by
  obtain ⟨rfl, -⟩ := h.newest hi (by decide)
  refine ⟨h.sockets, h.goes, h.status, h.due, ?_, ?_, ?_⟩
  · rw [failures_concat]
    exact h.wait
  · show ((c.inbox ++ [(i, m)]).map (·.1)).Pairwise (· ≤ ·)
    rw [List.map_append, List.pairwise_append]
    refine ⟨h.ordered, List.pairwise_singleton _ _, ?_⟩
    intro j hj k hk
    obtain ⟨m', hm', rfl⟩ := List.mem_map.mp hj
    rw [List.mem_singleton.mp hk]
    exact h.bounded m' hm'
  · intro m' hm'
    rcases List.mem_append.mp hm' with hm' | hm'
    · exact h.bounded m' hm'
    · exact Nat.le_of_eq (congrArg Prod.fst (List.mem_singleton.mp hm'))

/-- A socket closes; unless the connection has been ended, a reconnect is scheduled. -/
theorem Held.closed {past : List (Event M)} {n : Nat} {p : Phase} {c : Connection M}
    (h : Held past n p c) {i : Nat} {q : Phase} (hi : c.sockets[i]? = some q)
    (hq : q ≠ .closed) : Held (past ++ [.closed i]) n .closed (c.onClose i) := by
  obtain ⟨rfl, rfl⟩ := h.newest hi hq
  have hset : c.sockets.set i .closed = List.replicate i .closed ++ [.closed] := by
    rw [h.sockets, set_newest]
  have hnone : c.timers = [] := by
    have hgoes := h.goes
    cases q with
    | closed => exact absurd rfl hq
    | _ => exact List.length_eq_zero_iff.mp hgoes.2
  unfold onClose scheduleReconnect
  by_cases hdead : c.dead = true
  · rw [if_pos hdead]
    refine ⟨hset, ?_, fun hlive => ?_, h.due, fun hlive => ?_, h.ordered, h.bounded⟩
    · show Phase.Goes .closed c.dead c.timers.length
      rw [hnone, hdead]
      exact ⟨Nat.zero_le 1, fun hlive => (nomatch hlive)⟩
    · exact absurd (hdead.symm.trans hlive) (by simp)
    · exact absurd (hdead.symm.trans hlive) (by simp)
  · rw [if_neg hdead]
    have hdead := eq_false_of_ne_true hdead
    have hwait := h.wait hdead
    refine ⟨hset, ?_, fun _ => ?_, ?_, fun _ => ?_, h.ordered, h.bounded⟩
    · show Phase.Goes .closed c.dead (c.timers ++ [c.clock + c.backoff]).length
      rw [hnone]
      exact ⟨Nat.le_refl 1, fun _ => rfl⟩
    · simp
    · intro d hd
      rcases List.mem_append.mp hd with hd | hd
      · exact h.due d hd
      · rw [List.mem_singleton.mp hd]
        show c.clock + c.backoff ≤ c.clock + 30000
        omega
    · rw [failures_concat]
      show min (c.backoff * 2) 30000 = _
      rw [hwait, backoff_succ]

/-- A timer that fires leaves no other, and makes the next socket. -/
theorem Held.reconnect {past : List (Event M)} {n : Nat} {p : Phase} {c : Connection M}
    (h : Held past n p c) {j due : Nat} (hj : c.timers[j]? = some due) :
    ∃ n' p', Held (past ++ [.reconnect j]) n' p'
      (connect { c with timers := c.timers.eraseIdx j }) := by
  have hlen := (List.getElem?_eq_some_iff.mp hj).1
  have hclosed : p = .closed := by
    have hgoes := h.goes
    cases p with
    | closed => rfl
    | _ =>
      have := hgoes.2
      omega
  subst hclosed
  have hone : c.timers.length = 1 := by
    have := h.goes.1
    omega
  have hnone : c.timers.eraseIdx j = [] := by
    apply List.length_eq_zero_iff.mp
    rw [List.length_eraseIdx_of_lt hlen]
    omega
  unfold connect
  rw [hnone]
  by_cases hdead : c.dead = true
  · rw [if_pos hdead]
    refine ⟨n, .closed, h.sockets, ?_, h.status, fun d hd => (nomatch hd), ?_, h.ordered,
      h.bounded⟩
    · show Phase.Goes .closed c.dead 0
      rw [hdead]
      exact ⟨Nat.zero_le 1, fun hlive => (nomatch hlive)⟩
    · rw [failures_concat]
      exact h.wait
  · rw [if_neg hdead]
    have hdead := eq_false_of_ne_true hdead
    refine ⟨n + 1, .connecting, ?_, ⟨hdead, rfl⟩, fun _ => ?_, fun d hd => (nomatch hd), ?_,
      h.ordered, ?_⟩
    · show c.sockets ++ [.connecting] = _
      rw [h.sockets, List.replicate_succ']
    · have hstatus := h.status hdead
      constructor
      · intro hlast
        cases hstatus.mp hlast
      · exact nofun
    · rw [failures_concat]
      exact h.wait
    · intro m hm
      have := h.bounded m hm
      omega

theorem Held.tearDown {past : List (Event M)} {n : Nat} {p : Phase} {c : Connection M}
    (h : Held past n p c) : Held (past ++ [.ended]) n p.close c.tearDown := by
  refine ⟨?_, ?_, fun hlive => (nomatch hlive), h.due, fun hlive => (nomatch hlive), h.ordered,
    h.bounded⟩
  · show c.sockets.modify (c.sockets.length - 1) Phase.close = _
    rw [h.sockets]
    simp [List.modify_eq_set_getElem?]
  · have hgoes := h.goes
    show Phase.Goes p.close true c.timers.length
    cases p with
    | closed => exact ⟨hgoes.1, fun hlive => (nomatch hlive)⟩
    | _ => exact ⟨rfl, hgoes.2⟩

theorem held_step {past : List (Event M)} {n : Nat} {p : Phase} {c c' : Connection M}
    {ev : Event M} (h : Held past n p c) (hs : step c ev = some c') :
    ∃ n' p', Held (past ++ [ev]) n' p' c' := by
  cases ev with
  | pass ms =>
    cases hs
    exact ⟨n, p, h.pass ms⟩
  | opened i =>
    simp only [step] at hs
    split at hs
    · rename_i hi
      cases hs
      exact ⟨n, _, h.opened hi⟩
    · cases hs
  | message i m =>
    simp only [step] at hs
    split at hs
    · rename_i hi
      cases hs
      exact ⟨n, p, h.message m hi⟩
    · cases hs
  | closed i =>
    simp only [step] at hs
    split at hs
    · cases hs
    · cases hs
    · rename_i q hq hi
      cases hs
      exact ⟨n, _, h.closed hi hq⟩
  | reconnect j =>
    simp only [step] at hs
    split at hs
    · cases hs
    · rename_i due hj
      split at hs
      · cases hs
        exact h.reconnect hj
      · cases hs
  | ended =>
    cases hs
    exact ⟨n, _, h.tearDown⟩

theorem held_of_run {past : List (Event M)} {c : Connection M}
    (hr : System.run step start past = some c) : ∃ n p, Held past n p c :=
  history_invariant (H := fun past c => ∃ n p, Held past n p c) ⟨0, _, held_start⟩
    (fun _ _ _ _ h _ hs => by
      obtain ⟨n, p, h⟩ := h
      exact held_step h hs) hr

theorem Held.live_eq {past : List (Event M)} {n : Nat} {p : Phase} {c : Connection M}
    (h : Held past n p c) : c.live = if p = .closed then 0 else 1 := by
  have hold : (List.replicate n Phase.closed).filter (· ≠ .closed) = [] := by
    apply List.filter_eq_nil_iff.mpr
    intro q hq
    rw [List.eq_of_mem_replicate hq]
    decide
  unfold live
  rw [h.sockets, List.filter_append, hold, List.nil_append]
  cases p <;> rfl

/-- An ended connection stays ended, and makes no socket. -/
theorem dead_step {c c' : Connection M} {ev : Event M} {k : Nat}
    (h : c.dead = true ∧ c.sockets.length = k) (hs : step c ev = some c') :
    c'.dead = true ∧ c'.sockets.length = k := by
  obtain ⟨hdead, hlen⟩ := h
  cases ev with
  | pass ms =>
    cases hs
    exact ⟨hdead, hlen⟩
  | opened i =>
    simp only [step] at hs
    split at hs
    · cases hs
      exact ⟨hdead, by simpa [onOpen] using hlen⟩
    · cases hs
  | message i m =>
    simp only [step] at hs
    split at hs
    · cases hs
      exact ⟨hdead, hlen⟩
    · cases hs
  | closed i =>
    simp only [step] at hs
    split at hs
    · cases hs
    · cases hs
    · cases hs
      simp [onClose, scheduleReconnect, hdead, hlen]
  | reconnect j =>
    simp only [step] at hs
    split at hs
    · cases hs
    · split at hs
      · cases hs
        simp [connect, hdead, hlen]
      · cases hs
  | ended =>
    cases hs
    exact ⟨rfl, by simpa [tearDown] using hlen⟩

/-! ## One connection -/

/-- What holds of the connection whatever the browser has done. -/
structure OneConnection (past : List (Event M)) (c : Connection M) : Prop where
  /-- There is one socket or one reconnect to come, after `end` at most. -/
  one : c.dead = false → c.live + c.timers.length = 1
  atMostOne : c.live + c.timers.length ≤ 1
  /-- Only `ws` can be live. -/
  newest (i p) : c.sockets[i]? = some p → p ≠ .closed → i + 1 = c.sockets.length
  /-- `onStatus` was told whether the page is connected. -/
  status : c.dead = false →
    (c.statuses.getLast? = some true ↔ c.sockets.getLast? = some .opened)
  /-- A reconnect is due within half a minute. -/
  soon : ∀ due ∈ c.timers, due ≤ c.clock + 30000
  backoff : c.dead = false → c.backoff = min (2000 * 2 ^ failures past) 30000
  /-- Messages of one socket do not come between those of another. -/
  ordered : (c.inbox.map (·.1)).Pairwise (· ≤ ·)
  /-- No socket is made after `end`. -/
  last (before after c₀) : past = before ++ .ended :: after →
    System.run step start before = some c₀ → c.sockets.length = c₀.sockets.length

/-- However sockets are opened and closed, and timers fire late. -/
theorem one_connection {past : List (Event M)} {c : Connection M}
    (hr : System.run step start past = some c) : OneConnection past c := by
  obtain ⟨n, p, h⟩ := held_of_run hr
  have hgoes := h.goes
  refine ⟨?_, ?_, ?_, ?_, h.due, h.wait, h.ordered, ?_⟩
  · intro hdead
    rw [h.live_eq]
    cases p with
    | closed => rw [if_pos rfl, hgoes.2 hdead]
    | _ => rw [if_neg (by decide), hgoes.2]
  · rw [h.live_eq]
    cases p with
    | closed =>
      have := hgoes.1
      simp only [if_true]
      omega
    | _ => simp [hgoes.2]
  · intro i q hi hq
    have hlast := (h.newest hi hq).1
    rw [h.sockets, List.length_append, List.length_replicate, List.length_singleton, hlast]
  · intro hdead
    rw [h.status hdead, h.sockets, List.getLast?_concat]
    exact ⟨fun hp => by rw [hp], fun hp => Option.some.inj hp⟩
  · rintro before after c₀ rfl hbefore
    obtain ⟨m, hm, hafter⟩ := run_append_some.mp hr
    rw [hbefore] at hm
    cases hm
    obtain ⟨m, hended, hafter⟩ := run_cons_some.mp hafter
    cases hended
    have hstart : c₀.tearDown.dead = true ∧ c₀.tearDown.sockets.length = c₀.sockets.length :=
      ⟨rfl, by simp [tearDown]⟩
    exact (run_invariant (fun _ _ _ => dead_step) hstart hafter).2

/-- The server goes away twice; the second wait is twice as long. -/
theorem reconnected_once :
    ∃ c : Connection Unit, System.run step start [.opened 0, .message 0 (), .closed 0, .pass 2500,
        .reconnect 0, .closed 1] = some c ∧
      c.timers = [6500] ∧ c.sockets = [.closed, .closed] ∧ c.live + c.timers.length = 1 := by
  let past : List (Event Unit) :=
    [.opened 0, .message 0 (), .closed 0, .pass 2500, .reconnect 0, .closed 1]
  have hrun : ∃ c : Connection Unit, System.run step start past = some c ∧ c.timers = [6500] ∧
      c.sockets = [.closed, .closed] ∧ c.dead = false := ⟨_, rfl, rfl, rfl, rfl⟩
  obtain ⟨c, hr, htimers, hsockets, hdead⟩ := hrun
  exact ⟨c, hr, htimers, hsockets, (one_connection hr).one hdead⟩

end Connection

end DatabusSim.WsClient
