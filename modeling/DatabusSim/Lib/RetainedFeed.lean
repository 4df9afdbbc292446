import DatabusSim.Lib.Transition

/-!
# Feeds with a retained snapshot

A publisher broadcasts a snapshot at each change of its state. The broadcasts are tasks that run
one after the other; each hands its snapshot to the clients that have joined by then, which get
their snapshots out of queues of their own. A client that has joined is greeted, at some later
point, with the snapshot of that moment, and only then is its queue relayed.

A client may be sent older snapshots after a newer greeting; but unless one of its queue has been
lost it ends with the current one, once nothing is on its way to it (`settled`).
-/

namespace RetainedFeed

open Transition

/-- A client: the number of broadcasts before it joined, what waits for it and what it has been
sent. -/
structure Client (S : Type*) where
  joinedAt : Nat
  greeted : Bool := false
  queue : List S := []
  received : List S := []
  /-- Something that waited for it has been dropped. -/
  lost : Bool := false

/-- `first` is the snapshot before any change; `sent` are those of the broadcasts that have run,
`pending` those of the ones that have not. -/
structure Feed (S : Type*) where
  first : S
  sent : List S := []
  pending : List S := []
  clients : List (Client S) := []

inductive Event (S : Type*) where
  /-- The state changes, and a broadcast is created for each snapshot of it. -/
  | publish (snapshots : List S)
  /-- The oldest broadcast runs. -/
  | broadcast
  | join
  | greet (i : Nat)
  | relay (i : Nat)
  /-- A queue that is full or too old drops one of its snapshots. -/
  | lose (i j : Nat)
  | leave (i : Nat)

variable {S : Type*}

/-- The snapshots that the state goes through in an event. -/
def Event.snapshots : Event S → List S
  | .publish snapshots => snapshots
  | _ => []

/-- Only clients have to do with the event. -/
def Event.OfClients : Event S → Prop
  | .publish _ => False
  | .broadcast => False
  | _ => True

/-- The snapshot of the state as it is. -/
def Feed.current (f : Feed S) : S := ((f.sent ++ f.pending).getLast?).getD f.first

/-- A broadcast hands its snapshot to a client. -/
def Client.hand (snapshot : S) (c : Client S) : Client S :=
  { c with queue := c.queue ++ [snapshot] }

def Feed.setClient (f : Feed S) (i : Nat) (c : Client S) : Feed S :=
  { f with clients := f.clients.set i c }

def Client.greet (c : Client S) (snapshot : S) : Option (Client S) :=
  if c.greeted then none else some { c with greeted := true, received := c.received ++ [snapshot] }

def Client.relay (c : Client S) : Option (Client S) :=
  match c.greeted, c.queue with
  | true, s :: queue => some { c with queue, received := c.received ++ [s] }
  | _, _ => none

def Client.lose (c : Client S) (j : Nat) : Option (Client S) :=
  if j < c.queue.length then some { c with queue := c.queue.eraseIdx j, lost := true } else none

/-- A client is greeted with a snapshot. -/
def Feed.greet (f : Feed S) (i : Nat) (snapshot : S) : Option (Feed S) :=
  f.clients[i]?.bind fun c => (c.greet snapshot).map (f.setClient i)

def step (f : Feed S) : Event S → Option (Feed S)
  | .publish snapshots => some { f with pending := f.pending ++ snapshots }
  | .broadcast =>
      match f.pending with
      | [] => none
      | s :: pending =>
          some { f with
            sent := f.sent ++ [s]
            pending
            clients := f.clients.map (Client.hand s) }
  | .join => some { f with clients := f.clients ++ [{ joinedAt := f.sent.length }] }
  | .greet i => f.greet i f.current
  | .relay i => f.clients[i]?.bind fun c => c.relay.map (f.setClient i)
  | .lose i j => f.clients[i]?.bind fun c => (c.lose j).map (f.setClient i)
  | .leave i =>
      if i < f.clients.length then some { f with clients := f.clients.eraseIdx i } else none

/-! ## What a client has been sent -/

/-- A client that has been greeted is sent what has been broadcast since it joined, the end of which
may still wait. Of the greeting something is known as long as nothing has been published since the
client joined. -/
structure Client.Fed (f : Feed S) (now : S → Prop) (c : Client S) : Prop where
  joined : c.joinedAt ≤ f.sent.length
  waiting : c.greeted = false → c.received = [] ∧ c.queue = f.sent.drop c.joinedAt
  served : c.greeted = true → ∃ greeting relayed, c.received = greeting :: relayed ∧
    relayed ++ c.queue = f.sent.drop c.joinedAt ∧
    (f.sent.length + f.pending.length = c.joinedAt → now greeting)

/-- Nothing else is known of a client that has lost a snapshot. -/
def Sound (f : Feed S) (now : S → Prop) : Prop := ∀ c ∈ f.clients, c.lost = false → c.Fed f now

theorem sound_start (first : S) (now : S → Prop) : Sound { first } now := by
  intro c hc
  cases hc

variable {now now' : S → Prop}

theorem Client.Fed.mono {f : Feed S} {c : Client S} (h : c.Fed f now)
    (hnow : ∀ s, now s → now' s) : c.Fed f now' where
  joined := h.joined
  waiting := h.waiting
  served hg := by
    obtain ⟨greeting, relayed, hrec, hsent, hgreeting⟩ := h.served hg
    exact ⟨greeting, relayed, hrec, hsent, fun hlen => hnow greeting (hgreeting hlen)⟩

/-- Once something is published, the greeting does not matter. -/
theorem Client.Fed.publish {f : Feed S} {c : Client S} (h : c.Fed f now) {snapshots : List S}
    (hne : snapshots ≠ []) : c.Fed { f with pending := f.pending ++ snapshots } now' where
  joined := h.joined
  waiting := h.waiting
  served hg := by
    obtain ⟨greeting, relayed, hrec, hsent, -⟩ := h.served hg
    refine ⟨greeting, relayed, hrec, hsent, fun hlen => ?_⟩
    have hjoined := h.joined
    have hpos := List.length_pos_iff.mpr hne
    simp only [List.length_append] at hlen
    omega

/-- A broadcast moves a snapshot from those to come to the end of each queue. -/
theorem Client.Fed.hand {f : Feed S} {c : Client S} (h : c.Fed f now) {s : S} {pending : List S}
    (hp : f.pending = s :: pending) (clients : List (Client S)) :
    (c.hand s).Fed { f with sent := f.sent ++ [s], pending, clients } now where
  joined := by
    have := h.joined
    simp only [Client.hand, List.length_append, List.length_singleton]
    omega
  waiting hg := by
    obtain ⟨hrec, hqueue⟩ := h.waiting hg
    refine ⟨hrec, ?_⟩
    simp only [Client.hand, hqueue, List.drop_append_of_le_length h.joined]
  served hg := by
    obtain ⟨greeting, relayed, hrec, hsent, hgreeting⟩ := h.served hg
    refine ⟨greeting, relayed, hrec, ?_, fun hlen => hgreeting ?_⟩
    · simp only [Client.hand, ← List.append_assoc, hsent,
        List.drop_append_of_le_length h.joined]
    · rw [hp, List.length_cons]
      simp only [Client.hand, List.length_append, List.length_singleton] at hlen
      omega

theorem Client.Fed.greet {f : Feed S} {c c' : Client S} {s : S} (h : c.lost = false → c.Fed f now)
    (hs : now s) (hc : c.greet s = some c') : c'.lost = false → c'.Fed f now := by
  unfold Client.greet at hc
  split at hc
  · cases hc
  · rename_i hg
    cases hc
    intro hlost
    have h := h hlost
    obtain ⟨hrec, hqueue⟩ := h.waiting (by simpa using hg)
    refine ⟨h.joined, fun hg' => (nomatch hg'), fun _ => ⟨s, [], ?_, hqueue, fun _ => hs⟩⟩
    show c.received ++ [s] = [s]
    rw [hrec, List.nil_append]

theorem Client.Fed.relay {f : Feed S} {c c' : Client S} (h : c.lost = false → c.Fed f now)
    (hc : c.relay = some c') : c'.lost = false → c'.Fed f now := by
  unfold Client.relay at hc
  split at hc
  · rename_i s queue hg hqueue
    cases hc
    intro hlost
    have h := h hlost
    obtain ⟨greeting, relayed, hrec, hsent, hgreeting⟩ := h.served hg
    refine ⟨h.joined, fun hg' => absurd (hg.symm.trans hg') (by simp), fun _ => ?_⟩
    refine ⟨greeting, relayed ++ [s], ?_, ?_, hgreeting⟩
    · show c.received ++ [s] = _
      rw [hrec, List.cons_append]
    · rw [hqueue] at hsent
      rw [List.append_assoc, List.singleton_append]
      exact hsent
  · cases hc

/-- What a client is sent depends on the broadcasts only, not on the other clients. -/
theorem Client.Fed.clients {f : Feed S} {c : Client S} (h : c.Fed f now)
    (clients : List (Client S)) : c.Fed { f with clients } now :=
  ⟨h.joined, h.waiting, h.served⟩

theorem Sound.mono {f : Feed S} (h : Sound f now) (hnow : ∀ s, now s → now' s) : Sound f now' :=
  fun c hc hlost => (h c hc hlost).mono hnow

theorem Sound.setClient {f : Feed S} (h : Sound f now) (i : Nat) {c : Client S}
    (hc : c.lost = false → c.Fed f now) : Sound (f.setClient i c) now := by
  intro d hd hlost
  rcases List.mem_or_eq_of_mem_set hd with hd | rfl
  · exact (h d hd hlost).clients _
  · exact (hc hlost).clients _

theorem Sound.publish {f : Feed S} (h : Sound f now) {snapshots : List S} (hne : snapshots ≠ []) :
    Sound { f with pending := f.pending ++ snapshots } now' :=
  fun c hc hlost => (h c hc hlost).publish hne

/-- A client may be greeted with what is known of greetings. -/
theorem Sound.greet {f f' : Feed S} (h : Sound f now) {s : S} (hnow : now s) {i : Nat}
    (hs : f.greet i s = some f') : Sound f' now := by
  obtain ⟨c, hc, hs⟩ := Option.bind_eq_some_iff.mp hs
  obtain ⟨c', hc', rfl⟩ := Option.map_eq_some_iff.mp hs
  exact h.setClient i (.greet (h c (List.mem_of_getElem? hc)) hnow hc')

theorem sound_step {f f' : Feed S} {ev : Event S} (h : Sound f now) (hs : step f ev = some f')
    (hgreet : ∀ i, ev = .greet i → now f.current)
    (hnow : ev.snapshots = [] → ∀ s, now s → now' s) : Sound f' now' := by
  cases ev with
  | publish snapshots =>
    cases hs
    cases snapshots with
    | nil =>
      rw [List.append_nil]
      exact h.mono (hnow rfl)
    | cons s rest => exact h.publish (List.cons_ne_nil s rest)
  | broadcast =>
    cases hp : f.pending with
    | nil => simp [step, hp] at hs
    | cons s pending =>
      simp only [step, hp, Option.some.injEq] at hs
      subst hs
      intro c hc hlost
      obtain ⟨d, hd, rfl⟩ := List.mem_map.mp hc
      exact ((h d hd hlost).mono (hnow rfl)).hand hp _
  | join =>
    cases hs
    intro c hc hlost
    rcases List.mem_append.mp hc with hc | hc
    · exact ((h c hc hlost).mono (hnow rfl)).clients _
    · rw [List.mem_singleton.mp hc]
      refine ⟨Nat.le_refl _, fun _ => ⟨rfl, ?_⟩, fun hg => (nomatch hg)⟩
      exact List.drop_length.symm
  | greet i => exact (h.greet (hgreet i rfl) hs).mono (hnow rfl)
  | relay i =>
    obtain ⟨c, hc, hs⟩ := Option.bind_eq_some_iff.mp hs
    obtain ⟨c', hc', rfl⟩ := Option.map_eq_some_iff.mp hs
    exact (h.setClient i (.relay (h c (List.mem_of_getElem? hc)) hc')).mono (hnow rfl)
  | lose i j =>
    obtain ⟨c, hc, hs⟩ := Option.bind_eq_some_iff.mp hs
    obtain ⟨c', hc', rfl⟩ := Option.map_eq_some_iff.mp hs
    unfold Client.lose at hc'
    split at hc'
    · cases hc'
      refine (h.setClient i ?_).mono (hnow rfl)
      intro hlost
      cases hlost
    · cases hc'
  | leave i =>
    simp only [step] at hs
    split at hs
    · cases hs
      intro c hc hlost
      exact ((h c (List.mem_of_mem_eraseIdx hc) hlost).mono (hnow rfl)).clients _
    · cases hs

/-- A greeted client to which nothing is on its way has been sent the last broadcast, or the
greeting if nothing has been published since it joined. -/
theorem Sound.settled {f : Feed S} (h : Sound f now) {c : Client S} (hc : c ∈ f.clients)
    (hlost : c.lost = false) (hg : c.greeted = true) (hqueue : c.queue = [])
    (hpending : f.pending = []) :
    ∃ s, c.received.getLast? = some s ∧ (f.sent.getLast? = some s ∨ now s) := by
  have hfed := h c hc hlost
  obtain ⟨greeting, relayed, hrec, hsent, hgreeting⟩ := hfed.served hg
  rw [hqueue, List.append_nil] at hsent
  rw [hrec]
  rcases List.eq_nil_or_concat relayed with rfl | ⟨l, last, rfl⟩
  · have hall : f.sent.length ≤ c.joinedAt := List.drop_eq_nil_iff.mp hsent.symm
    have hjoined := hfed.joined
    refine ⟨greeting, rfl, .inr (hgreeting ?_)⟩
    rw [hpending, List.length_nil]
    omega
  · have hlast : f.sent.getLast? = some last := by
      rw [← List.take_append_drop c.joinedAt f.sent, ← hsent]
      simp
    refine ⟨last, ?_, .inl hlast⟩
    rw [List.concat_eq_append, ← List.cons_append, List.getLast?_concat]

/-- Clients leave the broadcasts to come as they are. -/
theorem pending_step {f f' : Feed S} {ev : Event S} (hev : ev.OfClients)
    (hs : step f ev = some f') : f'.pending = f.pending := by
  cases ev with
  | publish snapshots => cases hev
  | broadcast => cases hev
  | join =>
    cases hs
    rfl
  | leave i =>
    simp only [step] at hs
    split at hs
    · cases hs
      rfl
    · cases hs
  | _ =>
    obtain ⟨c, -, hs⟩ := Option.bind_eq_some_iff.mp hs
    obtain ⟨c', -, rfl⟩ := Option.map_eq_some_iff.mp hs
    rfl

/-- Without a change of the state the snapshots that are broadcast or wait to be are the same. -/
theorem history_step {f f' : Feed S} {ev : Event S} (hev : ev.snapshots = [])
    (hs : step f ev = some f') : f'.sent ++ f'.pending = f.sent ++ f.pending := by
  cases ev with
  | publish snapshots =>
    cases hs
    rw [show snapshots = [] from hev, List.append_nil]
  | broadcast =>
    cases hp : f.pending with
    | nil => simp [step, hp] at hs
    | cons s pending =>
      simp only [step, hp, Option.some.injEq] at hs
      subst hs
      simp
  | join =>
    cases hs
    rfl
  | leave i =>
    simp only [step] at hs
    split at hs
    · cases hs
      rfl
    · cases hs
  | _ =>
    obtain ⟨c, -, hs⟩ := Option.bind_eq_some_iff.mp hs
    obtain ⟨c', -, rfl⟩ := Option.map_eq_some_iff.mp hs
    rfl

theorem Event.OfClients.snapshots {ev : Event S} (h : ev.OfClients) : ev.snapshots = [] := by
  cases ev with
  | publish snapshots => cases h
  | _ => rfl

/-- Only a change of the state makes another snapshot current. -/
theorem current_step {f f' : Feed S} {ev : Event S} (hs : step f ev = some f') :
    f'.current = (ev.snapshots.getLast?).getD f.current := by
  unfold Feed.current
  cases ev with
  | publish snapshots =>
    cases hs
    show ((f.sent ++ (f.pending ++ snapshots)).getLast?).getD f.first =
      (snapshots.getLast?).getD _
    rw [← List.append_assoc, List.getLast?_append]
    cases snapshots.getLast? <;> rfl
  | broadcast =>
    cases hp : f.pending with
    | nil => simp [step, hp] at hs
    | cons s pending =>
      simp only [step, hp, Option.some.injEq] at hs
      subst hs
      show ((f.sent ++ [s] ++ pending).getLast?).getD f.first =
        ((f.sent ++ s :: pending).getLast?).getD f.first
      rw [List.append_assoc, List.singleton_append]
  | join =>
    cases hs
    rfl
  | leave i =>
    simp only [step] at hs
    split at hs
    · cases hs
      rfl
    · cases hs
  | _ =>
    obtain ⟨c, -, hs⟩ := Option.bind_eq_some_iff.mp hs
    obtain ⟨c', -, rfl⟩ := Option.map_eq_some_iff.mp hs
    rfl

/-- The feed of a state whose snapshot is `s`. -/
structure Feed.Follows (f : Feed S) (s : S) : Prop where
  current : f.current = s
  sound : Sound f (· = s)

theorem follows_start (s : S) : Feed.Follows { first := s } s := ⟨rfl, sound_start s _⟩

/-- The state must announce its changes, and only those. -/
theorem Feed.Follows.step {f f' : Feed S} {s : S} {ev : Event S} (h : f.Follows s)
    (hs : RetainedFeed.step f ev = some f') : f'.Follows ((ev.snapshots.getLast?).getD s) where
  current := by rw [current_step hs, h.current]
  sound := by
    refine sound_step h.sound hs (fun _ _ => h.current) fun hnone g hg => ?_
    rw [hnone]
    exact hg

theorem Feed.Follows.clients {f f' : Feed S} {s : S} {ev : Event S} (h : f.Follows s)
    (hev : ev.OfClients) (hs : RetainedFeed.step f ev = some f') : f'.Follows s := by
  have hfollows := h.step hs
  rw [hev.snapshots] at hfollows
  exact hfollows

theorem Feed.Follows.greet {f : Feed S} {s : S} (h : f.Follows s) (i : Nat) :
    f.greet i s = RetainedFeed.step f (.greet i) := by
  rw [← h.current]
  rfl

/-- A greeted client to which nothing is on its way has the current snapshot. -/
theorem Feed.Follows.settled {f : Feed S} {s : S} (h : f.Follows s) {c : Client S}
    (hc : c ∈ f.clients) (hlost : c.lost = false) (hg : c.greeted = true)
    (hqueue : c.queue = []) (hpending : f.pending = []) :
    c.received.getLast? = some s := by
  obtain ⟨last, hlast, hcases⟩ := h.sound.settled hc hlost hg hqueue hpending
  rcases hcases with hsent | rfl
  · have hcurrent := h.current
    unfold Feed.current at hcurrent
    rw [hpending, List.append_nil, hsent, Option.getD_some] at hcurrent
    rw [hlast, hcurrent]
  · exact hlast

/-! ## Where a snapshot comes from -/

/-- What a client has been sent, or waits for it, has the property. -/
structure Client.All (P : S → Prop) (c : Client S) : Prop where
  queue (s) : s ∈ c.queue → P s
  received (s) : s ∈ c.received → P s

/-- So has what is still to be broadcast. -/
structure Feed.All (P : S → Prop) (f : Feed S) : Prop where
  pending (s) : s ∈ f.pending → P s
  clients (c) : c ∈ f.clients → c.All P

section All

variable {P : S → Prop}

theorem Feed.All.setClient {f : Feed S} (h : f.All P) (i : Nat) {c : Client S} (hc : c.All P) :
    (f.setClient i c).All P where
  pending := h.pending
  clients d hd := by
    rcases List.mem_or_eq_of_mem_set hd with hd | rfl
    · exact h.clients d hd
    · exact hc

theorem Client.All.greet {c c' : Client S} {s : S} (h : c.All P) (hP : P s)
    (hc : c.greet s = some c') : c'.All P := by
  unfold Client.greet at hc
  split at hc
  · cases hc
  · cases hc
    refine ⟨h.queue, fun x hx => ?_⟩
    rcases List.mem_append.mp hx with hx | hx
    · exact h.received x hx
    · rw [List.mem_singleton.mp hx]
      exact hP

theorem Client.All.relay {c c' : Client S} (h : c.All P) (hc : c.relay = some c') : c'.All P := by
  unfold Client.relay at hc
  split at hc
  · rename_i s queue hg hqueue
    cases hc
    have hall := h.queue
    rw [hqueue] at hall
    refine ⟨fun x hx => hall x (List.mem_cons_of_mem s hx), fun x hx => ?_⟩
    rcases List.mem_append.mp hx with hx | hx
    · exact h.received x hx
    · rw [List.mem_singleton.mp hx]
      exact hall s List.mem_cons_self
  · cases hc

theorem Client.All.lose {c c' : Client S} (h : c.All P) {j : Nat} (hc : c.lose j = some c') :
    c'.All P := by
  unfold Client.lose at hc
  split at hc
  · cases hc
    exact ⟨fun x hx => h.queue x (List.mem_of_mem_eraseIdx hx), h.received⟩
  · cases hc

theorem Feed.All.publish {f : Feed S} (h : f.All P) {snapshots : List S}
    (hP : ∀ s ∈ snapshots, P s) : Feed.All P { f with pending := f.pending ++ snapshots } where
  pending s hs := (List.mem_append.mp hs).elim (h.pending s) (hP s)
  clients := h.clients

theorem Feed.All.greet {f f' : Feed S} (h : f.All P) {s : S} (hP : P s) {i : Nat}
    (hs : f.greet i s = some f') : f'.All P := by
  obtain ⟨c, hc, hs⟩ := Option.bind_eq_some_iff.mp hs
  obtain ⟨c', hc', rfl⟩ := Option.map_eq_some_iff.mp hs
  exact h.setClient i ((h.clients c (List.mem_of_getElem? hc)).greet hP hc')

/-- Clients are sent nothing but what has been published or is current. -/
theorem all_step {f f' : Feed S} {ev : Event S} (h : f.All P) (hs : step f ev = some f')
    (hev : ∀ s ∈ ev.snapshots, P s) (hgreet : ∀ i, ev = .greet i → P f.current) : f'.All P := by
  cases ev with
  | publish snapshots =>
    cases hs
    exact h.publish hev
  | broadcast =>
    cases hp : f.pending with
    | nil => simp [step, hp] at hs
    | cons s pending =>
      simp only [step, hp, Option.some.injEq] at hs
      subst hs
      have hall := h.pending
      rw [hp] at hall
      refine ⟨fun x hx => hall x (List.mem_cons_of_mem s hx), fun c hc => ?_⟩
      obtain ⟨d, hd, rfl⟩ := List.mem_map.mp hc
      refine ⟨fun x hx => ?_, (h.clients d hd).received⟩
      rcases List.mem_append.mp hx with hx | hx
      · exact (h.clients d hd).queue x hx
      · rw [List.mem_singleton.mp hx]
        exact hall s List.mem_cons_self
  | join =>
    cases hs
    refine ⟨h.pending, fun c hc => ?_⟩
    rcases List.mem_append.mp hc with hc | hc
    · exact h.clients c hc
    · rw [List.mem_singleton.mp hc]
      exact ⟨fun _ hx => (nomatch hx), fun _ hx => (nomatch hx)⟩
  | greet i => exact h.greet (hgreet i rfl) hs
  | relay i =>
    obtain ⟨c, hc, hs⟩ := Option.bind_eq_some_iff.mp hs
    obtain ⟨c', hc', rfl⟩ := Option.map_eq_some_iff.mp hs
    exact h.setClient i ((h.clients c (List.mem_of_getElem? hc)).relay hc')
  | lose i j =>
    obtain ⟨c, hc, hs⟩ := Option.bind_eq_some_iff.mp hs
    obtain ⟨c', hc', rfl⟩ := Option.map_eq_some_iff.mp hs
    exact h.setClient i ((h.clients c (List.mem_of_getElem? hc)).lose hc')
  | leave i =>
    simp only [step] at hs
    split at hs
    · cases hs
      exact ⟨h.pending, fun c hc => h.clients c (List.mem_of_mem_eraseIdx hc)⟩
    · cases hs

end All

end RetainedFeed
