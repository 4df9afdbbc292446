import DatabusSim.Lib.Latest
import DatabusSim.Static.Store
import Mathlib.Data.List.Dedup

/-!
# Subscriptions

`subscribe` of `static/lib/ws_client.js` and the function it returns. The callbacks of a filter are
a set, so that a message runs a callback once for each matching filter under which it was
subscribed last, however often that was (`subs_agree`).
-/

namespace DatabusSim.WsClient

open Transition History

variable {Callback : Type}

/-! ## The map -/

/-- No filter has two sets, and no set is empty or has a callback twice. -/
structure WellFormed (subs : Subs Callback) : Prop where
  patterns : (subs.map Prod.fst).Nodup
  sets : ∀ s ∈ subs, s.2.Nodup ∧ s.2 ≠ []

theorem mem_setEntry {pattern : String} {set : List Callback} {subs : Subs Callback}
    {s : String × List Callback} (h : s ∈ Dict.setEntry pattern set subs) :
    s = (pattern, set) ∨ s ∈ subs := by
  induction subs with
  | nil => exact .inl (List.mem_singleton.mp h)
  | cons t rest ih =>
    obtain ⟨p, cbs⟩ := t
    rw [Dict.setEntry] at h
    split at h
    · rcases List.mem_cons.mp h with h | h
      · exact .inl h
      · exact .inr (List.mem_cons_of_mem _ h)
    · rcases List.mem_cons.mp h with rfl | h
      · exact .inr List.mem_cons_self
      · rcases ih h with h | h
        · exact .inl h
        · exact .inr (List.mem_cons_of_mem _ h)

theorem WellFormed.setEntry {subs : Subs Callback} (h : WellFormed subs) (pattern : String)
    {set : List Callback} (hset : set.Nodup) (hne : set ≠ []) :
    WellFormed (Dict.setEntry pattern set subs) where
  patterns := (Dict.set ⟨subs, h.patterns⟩ pattern set).nodup
  sets s hs := by
    rcases mem_setEntry hs with rfl | hs
    · exact ⟨hset, hne⟩
    · exact h.sets s hs

/-- The set of a filter in a well-formed map, if it is there. -/
theorem WellFormed.set {subs : Subs Callback} (h : WellFormed subs) {pattern : String}
    {set : List Callback} (hset : Dict.lookupEntry pattern subs = some set) : set.Nodup :=
  (h.sets _ ((Dict.lookupEntry_eq_some_iff h.patterns).mp hset)).1

/-! ## The operations -/

variable [DecidableEq Callback]

/-- `subs.get(pattern)`. -/
def callbacks (subs : Subs Callback) (pattern : String) : List Callback :=
  (Dict.lookupEntry pattern subs).getD []

/-- `subscribe`: a new filter goes to the end of the map, a new callback to the end of its set. -/
def subscribe (subs : Subs Callback) (pattern : String) (cb : Callback) : Subs Callback :=
  let set := callbacks subs pattern
  Dict.setEntry pattern (if cb ∈ set then set else set ++ [cb]) subs

/-- What `subscribe` returned: a set that is empty leaves the map. -/
def unsubscribe (subs : Subs Callback) (pattern : String) (cb : Callback) : Subs Callback :=
  match Dict.lookupEntry pattern subs with
  | none => subs
  | some set =>
      let set := set.filter (· ≠ cb)
      if set.isEmpty then subs.filter fun s => decide (s.1 ≠ pattern)
      else Dict.setEntry pattern set subs

inductive Call (Callback : Type) where
  | subscribe (pattern : String) (cb : Callback)
  | unsubscribe (pattern : String) (cb : Callback)

def Call.pattern : Call Callback → String
  | .subscribe pattern _ => pattern
  | .unsubscribe pattern _ => pattern

/-- Whether a callback is subscribed under a filter, by a call about them. -/
def Call.about (pattern : String) (cb : Callback) : Call Callback → Option Bool
  | .subscribe p c => if p = pattern ∧ c = cb then some true else none
  | .unsubscribe p c => if p = pattern ∧ c = cb then some false else none

def call : System (Subs Callback) (Call Callback)
  | subs, .subscribe pattern cb => some (subscribe subs pattern cb)
  | subs, .unsubscribe pattern cb => some (unsubscribe subs pattern cb)

example : System.run call [] [.subscribe "sim/state/fleet" Handler.fleet,
    .subscribe "sim/state/navsat" .navsat, .subscribe "sim/state/schedule" .schedule,
    .subscribe "transit/vehicle/+/+" .telemetry] = some subscriptions := rfl

/-! ## What is subscribed -/

theorem mem_callbacks_subscribe (subs : Subs Callback) (p q : String) (cb d : Callback) :
    cb ∈ callbacks (subscribe subs q d) p ↔ (q = p ∧ d = cb) ∨ cb ∈ callbacks subs p := by
  unfold subscribe
  rw [callbacks, Dict.lookupEntry_setEntry]
  by_cases hp : p = q
  · subst hp
    rw [if_pos rfl, Option.getD_some]
    by_cases hd : d ∈ callbacks subs p
    · rw [if_pos hd]
      constructor
      · exact .inr
      · rintro (⟨-, rfl⟩ | h)
        · exact hd
        · exact h
    · rw [if_neg hd, List.mem_append, List.mem_singleton]
      constructor
      · rintro (h | rfl)
        · exact .inr h
        · exact .inl ⟨rfl, rfl⟩
      · rintro (⟨-, rfl⟩ | h)
        · exact .inr rfl
        · exact .inl h
  · rw [if_neg hp]
    constructor
    · exact .inr
    · rintro (⟨rfl, -⟩ | h)
      · exact absurd rfl hp
      · exact h

theorem mem_callbacks_unsubscribe (subs : Subs Callback) (p q : String) (cb d : Callback) :
    cb ∈ callbacks (unsubscribe subs q d) p ↔ ¬(q = p ∧ d = cb) ∧ cb ∈ callbacks subs p := by
  unfold unsubscribe
  cases hq : Dict.lookupEntry q subs with
  | none =>
    constructor
    · intro h
      refine ⟨?_, h⟩
      rintro ⟨rfl, rfl⟩
      simp [callbacks, hq] at h
    · exact And.right
  | some set =>
    dsimp only
    have hfilter : ∀ c, c ∈ set.filter (· ≠ d) ↔ c ∈ set ∧ c ≠ d := by
      intro c
      simp
    split
    · rename_i hempty
      rw [callbacks, Dict.lookupEntry_filter_ne]
      by_cases hp : p = q
      · subst hp
        rw [if_pos rfl, callbacks, hq]
        have hcb : ¬ (cb ∈ set ∧ cb ≠ d) := by
          rw [← hfilter, List.isEmpty_iff.mp hempty]
          exact List.not_mem_nil
        simp only [Option.getD_none, List.not_mem_nil, Option.getD_some, true_and, false_iff]
        exact fun h => hcb ⟨h.2, fun hd => h.1 hd.symm⟩
      · rw [if_neg hp, callbacks]
        exact ⟨fun h => ⟨fun h' => hp h'.1.symm, h⟩, And.right⟩
    · rw [callbacks, Dict.lookupEntry_setEntry]
      by_cases hp : p = q
      · subst hp
        rw [if_pos rfl, Option.getD_some, hfilter, callbacks, hq, Option.getD_some]
        exact ⟨fun h => ⟨fun h' => h.2 h'.2.symm, h.1⟩, fun h => ⟨h.2, fun hd => h.1 ⟨rfl, hd.symm⟩⟩⟩
      · rw [if_neg hp, callbacks]
        exact ⟨fun h => ⟨fun h' => hp h'.1.symm, h⟩, And.right⟩

/-- A callback is subscribed where the latest call about it has subscribed it. -/
theorem mem_callbacks_iff {calls : List (Call Callback)} {subs : Subs Callback}
    (hr : System.run call [] calls = some subs) (pattern : String) (cb : Callback) :
    cb ∈ callbacks subs pattern ↔ latest (Call.about pattern cb) calls = some true := by
  have hview : ∀ (s : Subs Callback) (c : Call Callback) s', call s c = some s' →
      decide (cb ∈ callbacks s' pattern) =
        (Call.about pattern cb c).getD (decide (cb ∈ callbacks s pattern)) := by
    intro s c s' hs
    cases c with
    | subscribe q d =>
      cases hs
      simp only [mem_callbacks_subscribe, Call.about]
      by_cases h : q = pattern ∧ d = cb <;> simp [h]
    | unsubscribe q d =>
      cases hs
      simp only [mem_callbacks_unsubscribe, Call.about]
      by_cases h : q = pattern ∧ d = cb <;> simp [h]
  have hlatest : decide (cb ∈ callbacks subs pattern) =
      (latest (Call.about pattern cb) calls).getD (decide (cb ∈ callbacks [] pattern)) :=
    run_latest hr hview
  refine (decide_eq_true_iff (p := cb ∈ callbacks subs pattern)).symm.trans ?_
  rw [hlatest]
  cases latest (Call.about pattern cb) calls with
  | none => simp [callbacks, Dict.lookupEntry]
  | some b => simp

/-! ## Calls -/

theorem wellFormed_call {subs subs' : Subs Callback} {c : Call Callback} (h : WellFormed subs)
    (hs : call subs c = some subs') : WellFormed subs' := by
  cases c with
  | subscribe pattern cb =>
    cases hs
    have hnodup : (callbacks subs pattern).Nodup := by
      unfold callbacks
      cases hset : Dict.lookupEntry pattern subs with
      | none => exact .nil
      | some set => exact h.set hset
    apply h.setEntry pattern
    · split
      · exact hnodup
      · rename_i hcb
        exact hnodup.append (List.nodup_singleton cb) (by simpa using hcb)
    · split
      · rename_i hcb
        exact List.ne_nil_of_mem hcb
      · simp
  | unsubscribe pattern cb =>
    cases hs
    unfold unsubscribe
    cases hset : Dict.lookupEntry pattern subs with
    | none => exact h
    | some set =>
      dsimp only
      split
      · exact ⟨h.patterns.sublist (List.filter_sublist.map Prod.fst),
          fun s hs => h.sets s (List.mem_filter.mp hs).1⟩
      · rename_i hne
        exact h.setEntry pattern ((h.set hset).filter _) fun hnil => hne (by rw [hnil]; rfl)

/-- The number of the sets under matching filters that have the callback. -/
theorem count_dispatch {subs : Subs Callback} (h : WellFormed subs) (topic : String)
    (cb : Callback) :
    (dispatch subs topic).count cb =
      ((subs.filter fun s => topicMatches s.1 topic && decide (cb ∈ s.2)).map Prod.fst).length := by
  have hsets := h.sets
  clear h
  unfold dispatch
  induction subs with
  | nil => rfl
  | cons s rest ih =>
    obtain ⟨hs, hrest⟩ := List.forall_mem_cons.mp hsets
    rw [List.flatMap_cons, List.count_append, ih hrest]
    by_cases hm : topicMatches s.1 topic = true
    · rw [if_pos hm]
      by_cases hcb : cb ∈ s.2
      · rw [List.count_eq_one_of_mem hs.1 hcb, List.filter_cons_of_pos (by simp [hm, hcb]),
          List.map_cons, List.length_cons]
        omega
      · rw [List.count_eq_zero_of_not_mem hcb, List.filter_cons_of_neg (by simp [hcb]),
          Nat.zero_add]
    · rw [if_neg hm, List.count_nil, List.filter_cons_of_neg (by simp [hm]), Nat.zero_add]

/-- The filters that are in the map have been subscribed to. -/
theorem pattern_mem_calls {calls : List (Call Callback)} {pattern : String} {cb : Callback}
    (h : latest (Call.about pattern cb) calls = some true) :
    pattern ∈ calls.map Call.pattern := by
  obtain ⟨before, c, after, rfl, hc, -⟩ := latest_eq_some.mp h
  have hpattern : c.pattern = pattern := by
    cases c <;>
    · simp only [Call.about] at hc
      split at hc
      · rename_i heq
        exact heq.1
      · cases hc
  rw [List.map_append, List.map_cons, hpattern]
  exact List.mem_append_right _ List.mem_cons_self

/-- A callback that is unsubscribed again leaves the map as it was. -/
theorem unsubscribe_subscribe {subs : Subs Callback} (h : WellFormed subs) {pattern : String}
    {cb : Callback} (hfresh : cb ∉ callbacks subs pattern) :
    unsubscribe (subscribe subs pattern cb) pattern cb = subs := by
  have hsubscribe : subscribe subs pattern cb =
      Dict.setEntry pattern (callbacks subs pattern ++ [cb]) subs := by
    unfold subscribe
    dsimp only
    rw [if_neg hfresh]
  unfold unsubscribe
  rw [hsubscribe, Dict.lookupEntry_setEntry, if_pos rfl]
  dsimp only
  cases hset : Dict.lookupEntry pattern subs with
  | none =>
    have hkey : pattern ∉ subs.map Prod.fst := by
      rw [← Dict.lookupEntry_isSome_iff, hset]
      simp
    have hothers : (subs.filter fun s => decide (s.1 ≠ pattern)) = subs := by
      apply List.filter_eq_self.mpr
      intro s hs
      have hne : s.1 ≠ pattern := fun heq => hkey (heq ▸ List.mem_map_of_mem hs)
      simp [hne]
    have hcallbacks : callbacks subs pattern = [] := by rw [callbacks, hset, Option.getD_none]
    rw [hcallbacks, List.nil_append, if_pos (by simp),
      Dict.setEntry_of_absent (by rw [hset]; rfl), List.filter_append, hothers]
    simp
  | some set =>
    have hcallbacks : callbacks subs pattern = set := by rw [callbacks, hset, Option.getD_some]
    rw [hcallbacks] at hfresh ⊢
    have hback : (set ++ [cb]).filter (· ≠ cb) = set := by
      rw [List.filter_append]
      have hset : set.filter (· ≠ cb) = set := by
        apply List.filter_eq_self.mpr
        intro c hc
        have hne : c ≠ cb := fun heq => hfresh (heq ▸ hc)
        simp [hne]
      rw [hset]
      simp
    have hne := (h.sets _ ((Dict.lookupEntry_eq_some_iff h.patterns).mp hset)).2
    rw [hback, if_neg (by simpa using hne), Dict.setEntry_setEntry, Dict.setEntry_of_lookup hset]

/-! ## After any calls -/

/-- Whatever has been subscribed and unsubscribed, a message runs a callback once for each filter
that matches its topic and under which the callback was subscribed last; no empty set is left, and
an unsubscription takes back what the subscription before it has added. -/
theorem subs_agree {calls : List (Call Callback)} {subs : Subs Callback}
    (hr : System.run call [] calls = some subs) :
    WellFormed subs ∧
      (∀ topic cb, (dispatch subs topic).count cb =
        ((calls.map Call.pattern).dedup.filter fun pattern =>
          topicMatches pattern topic &&
            decide (latest (Call.about pattern cb) calls = some true)).length) ∧
      ∀ pattern cb, latest (Call.about pattern cb) calls ≠ some true →
        unsubscribe (subscribe subs pattern cb) pattern cb = subs := by
  have hnone : WellFormed ([] : Subs Callback) := ⟨List.nodup_nil, fun _ hs => absurd hs (by simp)⟩
  have hwf : WellFormed subs := run_invariant (fun _ _ _ => wellFormed_call) hnone hr
  refine ⟨hwf, ?_, ?_⟩
  · intro topic cb
    rw [count_dispatch hwf]
    apply List.Perm.length_eq
    apply (List.perm_ext_iff_of_nodup ?_ ((List.nodup_dedup _).filter _)).mpr
    · intro pattern
      have hmem := mem_callbacks_iff hr pattern cb
      rw [List.mem_filter, List.mem_dedup, Bool.and_eq_true, decide_eq_true_iff, ← hmem]
      constructor
      · intro h
        obtain ⟨⟨p, set⟩, hs, rfl⟩ := List.mem_map.mp h
        obtain ⟨hs, hboth⟩ := List.mem_filter.mp hs
        rw [Bool.and_eq_true, decide_eq_true_iff] at hboth
        have hcb : cb ∈ callbacks subs p := by
          rw [callbacks, (Dict.lookupEntry_eq_some_iff hwf.patterns).mpr hs]
          exact hboth.2
        exact ⟨pattern_mem_calls (hmem.mp hcb), hboth.1, hcb⟩
      · rintro ⟨-, hm, hcb⟩
        unfold callbacks at hcb
        cases hset : Dict.lookupEntry pattern subs with
        | none => simp [hset] at hcb
        | some set =>
          rw [hset, Option.getD_some] at hcb
          have hs := (Dict.lookupEntry_eq_some_iff hwf.patterns).mp hset
          exact List.mem_map.mpr ⟨_, List.mem_filter.mpr ⟨hs, by simp [hm, hcb]⟩, rfl⟩
    · exact hwf.patterns.sublist (List.filter_sublist.map Prod.fst)
  · intro pattern cb hcb
    exact unsubscribe_subscribe hwf (mt (mem_callbacks_iff hr pattern cb).mp hcb)

/-- A callback that came twice under one filter and has gone from another is run once. -/
theorem subs_agree_once :
    ∃ subs : Subs Nat, System.run call [] [.subscribe "unit/+" 0, .subscribe "#" 0,
        .subscribe "unit/+" 0, .unsubscribe "#" 0] = some subs ∧
      (dispatch subs "unit/01").count 0 = 1 := by
  let calls : List (Call Nat) := [.subscribe "unit/+" 0, .subscribe "#" 0, .subscribe "unit/+" 0,
    .unsubscribe "#" 0]
  have hrun : ∃ subs : Subs Nat, System.run call [] calls = some subs := ⟨_, rfl⟩
  obtain ⟨subs, hr⟩ := hrun
  exact ⟨subs, hr, ((subs_agree hr).2.1 "unit/01" 0).trans (by decide)⟩

end DatabusSim.WsClient
