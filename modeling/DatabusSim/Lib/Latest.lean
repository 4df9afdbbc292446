import Mathlib.Data.List.Forall2
import DatabusSim.Lib.Transition

/-!
# The latest report

Where an event reports a value or says nothing about it, what a state keeps of the reports is a
function of the events (`latest`). A view that each step overwrites with its report, and leaves
alone without one, shows the latest report after every run (`run_latest`).
-/

namespace History

open Transition

variable {σ ε α : Type*} {report : ε → Option α}

/-- What the last event with a report says. -/
def latest (report : ε → Option α) (es : List ε) : Option α := (es.filterMap report).getLast?

@[simp] theorem latest_nil : latest report [] = none := rfl

theorem latest_append (es fs : List ε) :
    latest report (es ++ fs) = (latest report fs).or (latest report es) := by
  unfold latest
  rw [List.filterMap_append, List.getLast?_append]

theorem latest_concat (es : List ε) (e : ε) :
    latest report (es ++ [e]) = (report e).or (latest report es) := by
  rw [latest_append]
  congr 1
  cases h : report e <;> simp [latest, h]

theorem latest_cons (e : ε) (es : List ε) :
    latest report (e :: es) = (latest report es).or (report e) := by
  rw [← List.singleton_append, latest_append]
  congr 1
  cases h : report e <;> simp [latest, h]

/-- Nothing is reported of a value that no event speaks of. -/
theorem latest_eq_none {es : List ε} (h : ∀ e ∈ es, report e = none) :
    latest report es = none := by
  unfold latest
  rw [List.filterMap_eq_nil_iff.mpr h]
  rfl

/-- Where the events that report something stand for `items` one by one, the latest report is that
of an event that stands for the last of them. -/
theorem latest_of_forall₂ {ι : Type*} {R : ε → ι → Prop} {speaks : ε → Bool} {es : List ε}
    {items : List ι} (h : List.Forall₂ R (es.filter speaks) items)
    (hother : ∀ e, speaks e = false → report e = none) (hitem : ∀ e i, R e i → report e ≠ none)
    {last : ι} (hlast : items.getLast? = some last) :
    ∃ e, R e last ∧ latest report es = report e := by
  induction es generalizing items with
  | nil =>
    cases h
    cases hlast
  | cons e es ih =>
    rw [latest_cons]
    cases hspeaks : speaks e with
    | false =>
      rw [List.filter_cons_of_neg (by simp [hspeaks])] at h
      obtain ⟨e', hR, hlatest⟩ := ih h hlast
      exact ⟨e', hR, by rw [hother e hspeaks, Option.or_none, hlatest]⟩
    | true =>
      rw [List.filter_cons_of_pos hspeaks] at h
      obtain ⟨first, rest, hR, hrest, rfl⟩ := List.forall₂_cons_left_iff.mp h
      cases rest with
      | nil =>
        cases hlast
        have hnone : latest report es = none := by
          apply latest_eq_none
          intro f hf
          have hfilter := List.filter_eq_nil_iff.mp (List.forall₂_nil_right_iff.mp hrest) f hf
          exact hother f (by simpa using hfilter)
        exact ⟨e, hR, by rw [hnone, Option.none_or]⟩
      | cons second rest =>
        rw [List.getLast?_cons_cons] at hlast
        obtain ⟨e', hR', hlatest⟩ := ih hrest hlast
        obtain ⟨b, hb⟩ := Option.ne_none_iff_exists'.mp (hitem e' last hR')
        exact ⟨e', hR', by rw [hlatest, hb, Option.some_or]⟩

/-- The latest report is that of an event after which there is no other. -/
theorem latest_eq_some {es : List ε} {a : α} :
    latest report es = some a ↔
      ∃ pre e post, es = pre ++ e :: post ∧ report e = some a ∧ ∀ f ∈ post, report f = none := by
  constructor
  · intro h
    induction es using List.reverseRecOn with
    | nil => cases h
    | append_singleton es e ih =>
      rw [latest_concat] at h
      cases he : report e with
      | some b =>
        rw [he, Option.some_or] at h
        cases h
        exact ⟨es, e, [], rfl, he, by simp⟩
      | none =>
        rw [he, Option.none_or] at h
        obtain ⟨pre, e', post, rfl, he', hpost⟩ := ih h
        refine ⟨pre, e', post ++ [e], by simp, he', ?_⟩
        intro f hf
        rcases List.mem_append.mp hf with hf | hf
        · exact hpost f hf
        · rw [List.mem_singleton.mp hf]
          exact he
  · rintro ⟨pre, e, post, rfl, he, hpost⟩
    rw [latest_append, latest_cons, latest_eq_none hpost, he]
    rfl

/-- A view that is overwritten by each report shows the latest, or what was there before. -/
theorem run_latest_or {step : System σ ε} {view : σ → Option α} {s s' : σ} {es : List ε}
    (hr : step.run s es = some s')
    (hview : ∀ s e s', step s e = some s' → view s' = (report e).or (view s)) :
    view s' = (latest report es).or (view s) := by
  induction es using List.reverseRecOn generalizing s' with
  | nil =>
    cases hr
    rfl
  | append_singleton es e ih =>
    obtain ⟨m, hm, hr⟩ := run_append_some.mp hr
    obtain ⟨m', hs, hr⟩ := run_cons_some.mp hr
    cases hr
    rw [hview m e _ hs, ih hm, latest_concat, Option.or_assoc]

theorem run_latest {step : System σ ε} {view : σ → α} {s s' : σ} {es : List ε}
    (hr : step.run s es = some s')
    (hview : ∀ s e s', step s e = some s' → view s' = (report e).getD (view s)) :
    view s' = (latest report es).getD (view s) := by
  have hstep : ∀ s e s', step s e = some s' → some (view s') = (report e).or (some (view s)) := by
    intro s e s' hs
    rw [hview s e s' hs]
    cases report e <;> rfl
  have h := @run_latest_or _ _ _ report step (fun s => some (view s)) s s' es hr hstep
  cases hl : latest report es <;> rw [hl] at h <;> exact Option.some.inj h

end History
