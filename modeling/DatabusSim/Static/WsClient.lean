import Mathlib.Tactic.Common

/-!
# Topic filters of the browser client

`static/lib/ws_client.js`: the page keeps the topic interface of its former MQTT client, so
what the socket delivers is handed to every subscriber whose filter matches the topic.
-/

namespace DatabusSim.WsClient

/-! ## MQTT topic filters -/

/-- One level of a topic or of a filter. -/
abbrev Level := List Char

/-- `s.split('/')`: empty levels are kept, and the empty string is one empty level. -/
def levels (s : String) : List Level := s.toList.splitOn '/'

/-- A filter is valid when `#` stands alone in the last level and `+` alone in its level. -/
def ValidFilter : List Level → Prop
  | [] => True
  | p :: ps =>
      ('#' ∈ p → p = ['#'] ∧ ps = []) ∧ ('+' ∈ p → p = ['+']) ∧ ValidFilter ps

instance decidableValidFilter : (ps : List Level) → Decidable (ValidFilter ps)
  | [] => inferInstanceAs (Decidable True)
  | p :: ps =>
      have := decidableValidFilter ps
      inferInstanceAs (Decidable
        (('#' ∈ p → p = ['#'] ∧ ps = []) ∧ ('+' ∈ p → p = ['+']) ∧ ValidFilter ps))

/-- The MQTT rules: which topics a filter covers, level by level. -/
inductive Covers : List Level → List Level → Prop where
  | done : Covers [] []
  | literal {p ps ts} (hash : '#' ∉ p) (plus : '+' ∉ p) (rest : Covers ps ts) :
      Covers (p :: ps) (p :: ts)
  | single {t ps ts} (rest : Covers ps ts) : Covers (['+'] :: ps) (t :: ts)
  /-- The levels from here on, and also none: the filter covers the parent. -/
  | multi {ts} : Covers [['#']] ts

namespace Covers

theorem nil_iff {ts : List Level} : Covers [] ts ↔ ts = [] := by
  constructor
  · intro h
    cases h
    rfl
  · intro h
    subst h
    exact .done

theorem not_single_nil {ps : List Level} : ¬ Covers (['+'] :: ps) [] := by
  intro h
  cases h

theorem single_cons_iff {t : Level} {ps ts : List Level} :
    Covers (['+'] :: ps) (t :: ts) ↔ Covers ps ts := by
  constructor
  · intro h
    cases h with
    | literal _ hplus _ => exact absurd (List.mem_singleton.mpr rfl) hplus
    | single h => exact h
  · exact .single

theorem not_literal_nil {p : Level} {ps : List Level} (hhash : '#' ∉ p) :
    ¬ Covers (p :: ps) [] := by
  intro h
  cases h with
  | multi => simp at hhash

theorem literal_cons_iff {p t : Level} {ps ts : List Level} (hhash : '#' ∉ p)
    (hplus : '+' ∉ p) : Covers (p :: ps) (t :: ts) ↔ t = p ∧ Covers ps ts := by
  constructor
  · intro h
    cases h with
    | literal _ _ h => exact ⟨rfl, h⟩
    | single => simp at hplus
    | multi => simp at hhash
  · intro h
    obtain ⟨rfl, h⟩ := h
    exact .literal hhash hplus h

end Covers

/-! ## The matcher -/

/-- The loop of `topicMatches` from index `i` on: the value of an early `return`, if there is
one. A topic that is too short has no `ts[i]`, which is no string and so unequal. -/
def scan (ts : List Level) (i : Nat) : List Level → Option Bool
  | [] => none
  | p :: ps =>
      if p = ['#'] then some true
      else if p = ['+'] then
        if ts.length ≤ i then some false else scan ts (i + 1) ps
      else if ts[i]? ≠ some p then some false
      else scan ts (i + 1) ps

def topicMatches (pattern topic : String) : Bool :=
  let ps := levels pattern
  let ts := levels topic
  (scan ts 0 ps).getD (ps.length == ts.length)

example : topicMatches "transit/vehicle/+/#" "transit/vehicle/bus-1" = true := by decide

example : topicMatches "transit/+/bus-1" "transit//bus-1/position" = false := by decide

/-- What the loop returns, or the comparison of the lengths after it, is about the levels
of the topic that are left. -/
theorem scan_iff (ts : List Level) {ps : List Level} (hps : ValidFilter ps) {i : Nat}
    (hi : i ≤ ts.length) :
    (scan ts i ps).getD (i + ps.length == ts.length) = true ↔ Covers ps (ts.drop i) := by
  induction ps generalizing i with
  | nil =>
    rw [Covers.nil_iff, List.drop_eq_nil_iff]
    simp only [scan, Option.getD_none, List.length_nil, Nat.add_zero, beq_iff_eq]
    omega
  | cons p ps ih =>
    obtain ⟨hhash, hplus, hps⟩ := hps
    by_cases hp : p = ['#']
    · subst hp
      have hlast : ps = [] := (hhash (List.mem_singleton.mpr rfl)).2
      subst hlast
      simp only [scan, if_true, Option.getD_some, true_iff]
      exact .multi
    have hhash : '#' ∉ p := fun h => hp (hhash h).1
    rcases Nat.lt_or_ge i ts.length with hlt | hge
    · have hlen : i + (p :: ps).length = i + 1 + ps.length := by
        rw [List.length_cons]
        omega
      rw [List.drop_eq_getElem_cons hlt]
      by_cases hp' : p = ['+']
      · subst hp'
        rw [scan, if_neg hp, if_pos rfl, if_neg (Nat.not_le.mpr hlt), hlen, ih hps hlt,
          Covers.single_cons_iff]
      · rw [Covers.literal_cons_iff hhash (fun h => hp' (hplus h)), scan, if_neg hp,
          if_neg hp', List.getElem?_eq_getElem hlt]
        by_cases heq : ts[i] = p
        · rw [if_neg (by simp [heq]), hlen, ih hps hlt, and_iff_right heq]
        · rw [if_pos (by simp [heq]), Option.getD_some]
          simp [heq]
    · -- The topic has ended: neither a name nor `+` can be matched.
      rw [List.drop_eq_nil_iff.mpr hge]
      by_cases hp' : p = ['+']
      · subst hp'
        rw [scan, if_neg hp, if_pos rfl, if_pos hge, Option.getD_some]
        simp [Covers.not_single_nil]
      · rw [scan, if_neg hp, if_neg hp', List.getElem?_eq_none hge]
        simp [Covers.not_literal_nil hhash]

theorem scan_zero_iff {ps ts : List Level} (hps : ValidFilter ps) :
    (scan ts 0 ps).getD (ps.length == ts.length) = true ↔ Covers ps ts := by
  have h := scan_iff ts hps (Nat.zero_le _)
  rw [Nat.zero_add, List.drop_zero] at h
  exact h

theorem topicMatches_iff_covers (pattern topic : String) (h : ValidFilter (levels pattern)) :
    topicMatches pattern topic = true ↔ Covers (levels pattern) (levels topic) :=
  scan_zero_iff h

theorem topicMatches_vehicle :
    topicMatches "transit/vehicle/+/#" "transit/vehicle/bus-1" = true ∧
      ¬ Covers (levels "transit/+/#") (levels "transit") :=
  ⟨(topicMatches_iff_covers "transit/vehicle/+/#" "transit/vehicle/bus-1" (by decide)).mpr
      (.literal (by decide) (by decide) (.literal (by decide) (by decide) (.single .multi))),
    fun h => absurd ((topicMatches_iff_covers "transit/+/#" "transit" (by decide)).mpr h)
      (by decide)⟩

/-! ## Subscribers -/

/-- `subs`: the callbacks of each filter, both in the order they came. -/
abbrev Subs (Callback : Type) := List (String × List Callback)

/-- The callbacks that `dispatch` runs for a topic, in order. One that throws is logged and
the next is run. -/
def dispatch {Callback : Type} (subs : Subs Callback) (topic : String) : List Callback :=
  subs.flatMap fun s => if topicMatches s.1 topic then s.2 else []

theorem mem_dispatch {Callback : Type} {subs : Subs Callback} {topic : String}
    {cb : Callback} : cb ∈ dispatch subs topic ↔
      ∃ pattern cbs, (pattern, cbs) ∈ subs ∧ cb ∈ cbs ∧ topicMatches pattern topic = true := by
  rw [dispatch, List.mem_flatMap]
  constructor
  · intro h
    obtain ⟨⟨pattern, cbs⟩, hmem, hcb⟩ := h
    by_cases hm : topicMatches pattern topic = true
    · rw [if_pos hm] at hcb
      exact ⟨pattern, cbs, hmem, hcb, hm⟩
    · rw [if_neg hm] at hcb
      exact absurd hcb (by simp)
  · intro h
    obtain ⟨pattern, cbs, hmem, hcb, hm⟩ := h
    exact ⟨(pattern, cbs), hmem, by rw [if_pos hm]; exact hcb⟩

/-- A subscriber whose filters are valid is called exactly for the topics they cover. -/
theorem mem_dispatch_covers {Callback : Type} {subs : Subs Callback}
    (hvalid : ∀ s ∈ subs, ValidFilter (levels s.1)) {topic : String} {cb : Callback} :
    cb ∈ dispatch subs topic ↔
      ∃ pattern cbs, (pattern, cbs) ∈ subs ∧ cb ∈ cbs ∧
        Covers (levels pattern) (levels topic) := by
  rw [mem_dispatch]
  constructor
  · intro h
    obtain ⟨pattern, cbs, hmem, hcb, hm⟩ := h
    exact ⟨pattern, cbs, hmem, hcb, (scan_zero_iff (hvalid _ hmem)).mp hm⟩
  · intro h
    obtain ⟨pattern, cbs, hmem, hcb, hm⟩ := h
    exact ⟨pattern, cbs, hmem, hcb, (scan_zero_iff (hvalid _ hmem)).mpr hm⟩

end DatabusSim.WsClient
