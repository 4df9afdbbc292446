import DatabusSim.Services.DatabusClient
import Mathlib.Data.List.Infix

/-!
# The simulator client of the browser

`static/lib/sim_api.js`: a request that is answered by an error status throws a message that
holds the path, the status and the text of the answer. The callers look for `HTTP 404` in it.
-/

namespace DatabusSim.SimApi

/-- The characters that `encodeURIComponent` leaves as they are. -/
def unreserved (c : Char) : Bool := c.isAlphanum || "-_.!~*'()".toList.contains c

def hexDigit (n : Nat) : Char := (Nat.digitChar n).toUpper

/-- `%XX` for each byte of a character. -/
def percentEncode (c : Char) : List Char :=
  (String.utf8EncodeChar c).flatMap fun b =>
    ['%', hexDigit (b.toNat / 16), hexDigit (b.toNat % 16)]

def encodeURIComponent (s : String) : String :=
  String.ofList (s.toList.flatMap fun c => if unreserved c then [c] else percentEncode c)

/-- What a `fetch` came to: an answer whose body could be read, as JSON where its status is a
success, or a rejection. -/
inductive Reply where
  | response (status : Nat) (threeDigits : 100 ≤ status ∧ status < 1000) (text : String)
  | rejected (message : String)

/-- The message that `request` throws. -/
def errorMessage (runId : String) (status : Nat) (text : String) : String :=
  "GET /run/" ++ encodeURIComponent runId ++ ": HTTP " ++ toString status ++ " — " ++ text

/-- `getRun`: it throws a message, or the run's state is there. -/
def getRun (runId : String) : Reply → Except String Unit
  | .response status _ text =>
      if DatabusClient.isSuccess status then .ok ()
      else .error (errorMessage runId status text)
  | .rejected message => .error message

/-- `s.includes(t)`. -/
def includes (s t : String) : Bool := decide (t.toList <:+: s.toList)

/-! ## The status in the message -/

theorem infix_append_left_right {w a b : List Char} {c : Char} (hc : c ∉ w)
    (h : w <:+: a ++ c :: b) : w <:+: a ∨ w <:+: b := by
  rcases List.infix_append_iff.mp h with h | h | ⟨w₁, w₂, rfl, h₁, h₂⟩
  · exact .inl h
  · rcases List.infix_cons_iff.mp h with h | h
    · -- a prefix of what starts with `c` is empty or starts with `c`
      rcases List.prefix_cons_iff.mp h with rfl | ⟨t, rfl, -⟩
      · exact .inl List.nil_infix
      · exact absurd (List.mem_cons_self) hc
    · exact .inr h
  · rcases List.prefix_cons_iff.mp h₂ with rfl | ⟨t, rfl, -⟩
    · rw [List.append_nil]
      exact .inl h₁.isInfix
    · exact absurd (List.mem_append_right w₁ List.mem_cons_self) hc

theorem hexDigit_ne_space : ∀ n < 16, hexDigit n ≠ ' ' := by decide

theorem space_not_mem_percentEncode (c : Char) : ' ' ∉ percentEncode c := by
  intro h
  obtain ⟨b, -, h⟩ := List.mem_flatMap.mp h
  have hb : b.toNat < 256 := b.toNat_lt
  have hhigh := hexDigit_ne_space (b.toNat / 16) (by omega)
  have hlow := hexDigit_ne_space (b.toNat % 16) (by omega)
  simp [hhigh.symm, hlow.symm] at h

theorem space_not_mem_encoded (s : String) : ' ' ∉ (encodeURIComponent s).toList := by
  rw [encodeURIComponent, String.toList_ofList]
  intro h
  obtain ⟨c, -, h⟩ := List.mem_flatMap.mp h
  split at h
  · rename_i hc
    rw [← List.mem_singleton.mp h] at hc
    revert hc
    decide
  · exact space_not_mem_percentEncode c h

/-- The only space of the path is behind its method. -/
theorem not_infix_path {enc : List Char} (henc : ' ' ∉ enc) :
    ¬ "HTTP 404".toList <:+: "GET /run/".toList ++ enc := by
  intro h
  rcases List.infix_append_iff.mp h with h | h | ⟨w₁, w₂, hw, h₁, h₂⟩
  · revert h
    decide
  · exact henc (h.subset (by decide))
  · have hsplit : ∀ k ≤ 8, "HTTP 404".toList.take k <:+ "GET /run/".toList →
        ' ' ∈ "HTTP 404".toList.drop k := by decide
    have hlen : w₁.length ≤ 8 := by
      have htotal := congrArg List.length hw
      have height : "HTTP 404".toList.length = 8 := by decide
      rw [List.length_append] at htotal
      omega
    have hspace := hsplit w₁.length hlen (by rw [hw, List.take_left]; exact h₁)
    rw [hw, List.drop_left] at hspace
    exact henc (h₂.subset hspace)

theorem toDigits_three {n : Nat} (h : 100 ≤ n ∧ n < 1000) :
    Nat.toDigits 10 n =
      [Nat.digitChar (n / 10 / 10), Nat.digitChar (n / 10 % 10), Nat.digitChar (n % 10)] := by
  rw [Nat.toDigits_of_base_le (by decide) (by omega),
    Nat.toDigits_of_base_le (by decide) (by omega), Nat.toDigits_of_lt_base (by omega)]
  rfl

theorem digitChar_four : ∀ d < 10, Nat.digitChar d = '4' → d = 4 := by decide

theorem digitChar_zero : ∀ d < 10, Nat.digitChar d = '0' → d = 0 := by decide

/-- Between the blanks only the digits `404` make up the end of `HTTP 404`. -/
theorem digits_of_infix {a b c : Char}
    (h : "HTTP 404".toList <:+: " HTTP ".toList ++ [a, b, c] ++ " ".toList) :
    a = '4' ∧ b = '0' ∧ c = '4' := by
  have hword : "HTTP 404".toList = ['H', 'T', 'T', 'P', ' ', '4', '0', '4'] := by decide
  have hbefore : " HTTP ".toList = [' ', 'H', 'T', 'T', 'P', ' '] := by decide
  rw [hword, hbefore] at h
  have hsame : '4' = a ∧ '0' = b ∧ '4' = c := by
    simpa [List.infix_cons_iff, List.cons_prefix_cons] using h
  exact ⟨hsame.1.symm, hsame.2.1.symm, hsame.2.2.symm⟩

theorem not_infix_status {n : Nat} (h : 100 ≤ n ∧ n < 1000) (hne : n ≠ 404) :
    ¬ "HTTP 404".toList <:+: " HTTP ".toList ++ Nat.toDigits 10 n ++ " ".toList := by
  rw [toDigits_three h]
  intro hinfix
  obtain ⟨hhundreds, htens, hones⟩ := digits_of_infix hinfix
  have hhundreds := digitChar_four (n / 10 / 10) (by omega) hhundreds
  have htens := digitChar_zero (n / 10 % 10) (by omega) htens
  have hones := digitChar_four (n % 10) (by omega) hones
  omega

theorem toList_toString (n : Nat) : (toString n).toList = Nat.toDigits 10 n :=
  String.toList_ofList

theorem errorMessage_toList (runId : String) (status : Nat) (text : String) :
    (errorMessage runId status text).toList =
      ("GET /run/".toList ++ (encodeURIComponent runId).toList) ++ ':' ::
        ((" HTTP ".toList ++ Nat.toDigits 10 status ++ " ".toList) ++
          '—' :: ' ' :: text.toList) := by
  have hcolon : ": HTTP ".toList = ':' :: " HTTP ".toList := by decide
  have hdash : " — ".toList = " ".toList ++ ['—', ' '] := by decide
  simp only [errorMessage, String.toList_append, toList_toString, hcolon, hdash,
    List.append_assoc, List.cons_append, List.nil_append]

/-- A message holds `HTTP 404` when its status is 404, or by its text. -/
theorem includes_errorMessage (runId : String) {status : Nat}
    (hstatus : 100 ≤ status ∧ status < 1000) (text : String) :
    includes (errorMessage runId status text) "HTTP 404" = true ↔
      status = 404 ∨ includes text "HTTP 404" = true := by
  unfold includes
  rw [decide_eq_true_iff, decide_eq_true_iff, errorMessage_toList]
  constructor
  · intro h
    by_cases h404 : status = 404
    · exact .inl h404
    · right
      rcases infix_append_left_right (by decide) h with h | h
      · exact absurd h (not_infix_path (space_not_mem_encoded runId))
      · rcases infix_append_left_right (by decide) h with h | h
        · exact absurd h (not_infix_status hstatus h404)
        · rcases List.infix_cons_iff.mp h with h | h
          · revert h
            simp
          · exact h
  · intro h
    rcases h with rfl | h
    · have hinside : "HTTP 404".toList <:+:
          " HTTP ".toList ++ Nat.toDigits 10 404 ++ " ".toList := by decide
      exact List.infix_append_of_infix_right (List.infix_cons
        (List.infix_append_of_infix_left hinside))
    · exact List.infix_append_of_infix_right (List.infix_cons
        (List.infix_append_of_infix_right (List.infix_cons (List.infix_cons h))))

end DatabusSim.SimApi
