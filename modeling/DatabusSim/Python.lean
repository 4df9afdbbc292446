import Mathlib.Data.Rat.Floor
import Mathlib.Tactic.Linarith
import DatabusSim.Lib.Dict

/-!
# The Python values and exceptions the services handle

Parsed JSON and YAML (`PyVal`), dictionary keys (`Key`), exceptions (`PyExc`)
and the numeric conversions the code calls. Floats are exact rationals, so there is no `nan`
and no infinity.
-/

namespace DatabusSim

/-- A `datetime`: what its clock face reads, in seconds since the epoch, and
its UTC offset when it has one. -/
structure DateTime where
  wall : ℚ
  utcoffset : Option ℚ
  deriving DecidableEq

/-- `dt.timestamp()` of an aware datetime, `none` for a naive one. -/
def DateTime.timestamp? (dt : DateTime) : Option ℚ :=
  dt.utcoffset.map (dt.wall - ·)

/-- A dictionary key up to Python's `==`: `True`, `1` and `1.0` are one key,
and so are two aware datetimes of one instant. -/
inductive Key where
  | null
  | num (q : ℚ)
  | str (s : String)
  | instant (q : ℚ)
  | naive (q : ℚ)
  | date (day : Int)
  | bytes (bs : List UInt8)
  deriving DecidableEq

/-- What `json.loads` and `yaml.safe_load` produce. The pairs of a YAML `!!omap` or `!!pairs`,
which are tuples, are lists of two. A list or mapping that YAML aliases put inside itself stands
there as an `alias`, by the number of lists and mappings that are passed on the way out to it. -/
inductive PyVal where
  | null
  | bool (b : Bool)
  | int (i : Int)
  | float (q : ℚ)
  | str (s : String)
  | datetime (dt : DateTime)
  | date (day : Int)
  | bytes (bs : List UInt8)
  | list (xs : List PyVal)
  | dict (items : List (Key × PyVal))
  | set (xs : List Key)
  | alias (out : Nat)
  deriving Inhabited

/-- The exceptions that can be told apart by an `except` clause here. A message
is its text and the value whose `repr` ends it. -/
inductive PyExc where
  | keyError (text : String) (value : Option PyVal)
  | valueError (text : String) (value : Option PyVal)
  | typeError (text : String)
  | attributeError (text : String)
  | indexError (text : String)
  | overflowError (text : String)
  | runtimeError (text : String)
  /-- pydantic's `ValidationError`: the model and the field it rejects. -/
  | validationError (model field : String)
  /-- `httpx.HTTPError`: connection refused, timeouts, protocol errors. -/
  | httpError (text : String)
  | databusError (text : String) (statusCode : Option Nat)

/-- An exception and the state its method had reached when it was raised. -/
structure Raised (σ : Type) where
  exc : PyExc
  state : σ

/-- Attach the state a raise leaves behind. -/
def raisingAt {σ α : Type} (s : σ) : Except PyExc α → Except (Raised σ) α
  | .ok a => .ok a
  | .error e => .error ⟨e, s⟩

/-- The state a method leaves, whether it returns or raises. -/
def settle {σ : Type} : Except (Raised σ) σ → σ
  | .ok s => s
  | .error r => r.state

/-- A computation that returns has returned in each of its steps. -/
theorem bind_ok {ε α β : Type} {x : Except ε α} {f : α → Except ε β} {b : β} :
    (x >>= f) = .ok b ↔ ∃ a, x = .ok a ∧ f a = .ok b := by
  cases x with
  | error e => exact ⟨fun h => (nomatch h), fun ⟨_, h, _⟩ => (nomatch h)⟩
  | ok a =>
    refine ⟨fun h => ⟨a, rfl, h⟩, fun ⟨_, h, hf⟩ => ?_⟩
    cases h
    exact hf

theorem bind_exists_ok {ε α β : Type} {x : Except ε α} {f : α → Except ε β} :
    (∃ b, (x >>= f) = .ok b) ↔ ∃ a, x = .ok a ∧ ∃ b, f a = .ok b := by
  simp only [bind_ok]
  exact ⟨fun ⟨b, a, hx, hf⟩ => ⟨a, hx, b, hf⟩, fun ⟨a, hx, b, hf⟩ => ⟨b, a, hx, hf⟩⟩

/-- A last step that only puts the result together does not raise. -/
theorem bind_pure_exists_ok {ε α β : Type} {x : Except ε α} {g : α → β} :
    (∃ b, (x >>= fun a => pure (g a)) = .ok b) ↔ ∃ a, x = .ok a :=
  bind_exists_ok.trans (exists_congr fun a => and_iff_left ⟨g a, rfl⟩)

theorem toOption_eq_some {ε α : Type} {x : Except ε α} {a : α} :
    x.toOption = some a ↔ x = .ok a := by
  cases x <;> simp [Except.toOption]

/-- An exception of a sequence comes from one of its steps. -/
theorem bind_error {ε α β : Type} {x : Except ε α} {f : α → Except ε β} {e : ε}
    (h : (x >>= f) = .error e) : x = .error e ∨ ∃ a, x = .ok a ∧ f a = .error e := by
  cases x with
  | error e' =>
    cases h
    exact .inl rfl
  | ok a => exact .inr ⟨a, rfl, h⟩

/-- A loop that returns has had a result for each element. -/
theorem mapM_ok {ε α β : Type} {f : α → Except ε β} {xs : List α} {ys : List β}
    (h : xs.mapM f = .ok ys) : List.Forall₂ (fun x y => f x = .ok y) xs ys := by
  induction xs generalizing ys with
  | nil =>
    cases h
    exact .nil
  | cons x xs ih =>
    rw [List.mapM_cons] at h
    obtain ⟨y, hy, h⟩ := bind_ok.mp h
    obtain ⟨rest, hrest, h⟩ := bind_ok.mp h
    cases h
    exact .cons hy (ih hrest)

/-- Each of its results is that of the element in its place. -/
theorem mapM_entry {ε α β : Type} {f : α → Except ε β} {xs : List α} {ys : List β}
    (h : xs.mapM f = .ok ys) (i : Nat) (y : β) :
    ys[i]? = some y ↔ ∃ x, xs[i]? = some x ∧ f x = .ok y := by
  have hall := mapM_ok h
  constructor
  · intro hy
    obtain ⟨hi, rfl⟩ := List.getElem?_eq_some_iff.mp hy
    have hi' : i < xs.length := by rwa [hall.length_eq]
    exact ⟨xs[i], List.getElem?_eq_getElem hi', hall.get hi' hi⟩
  · rintro ⟨x, hx, hf⟩
    obtain ⟨hi, rfl⟩ := List.getElem?_eq_some_iff.mp hx
    have hi' : i < ys.length := by rwa [← hall.length_eq]
    have hget : f xs[i] = .ok ys[i] := hall.get hi hi'
    rw [hf] at hget
    cases hget
    exact List.getElem?_eq_getElem hi'

/-- A loop returns when its body does on each element. -/
theorem mapM_ok_iff {ε α β : Type} (f : α → Except ε β) (xs : List α) :
    (∃ ys, xs.mapM f = .ok ys) ↔ ∀ x ∈ xs, ∃ y, f x = .ok y := by
  induction xs with
  | nil => exact ⟨fun _ _ h => (nomatch h), fun _ => ⟨[], rfl⟩⟩
  | cons x xs ih =>
    rw [List.forall_mem_cons, ← ih, List.mapM_cons]
    constructor
    · rintro ⟨ys, h⟩
      obtain ⟨y, hy, h⟩ := bind_ok.mp h
      obtain ⟨rest, hrest, -⟩ := bind_ok.mp h
      exact ⟨⟨y, hy⟩, rest, hrest⟩
    · rintro ⟨⟨y, hy⟩, rest, hrest⟩
      exact ⟨y :: rest, bind_ok.mpr ⟨y, hy, bind_ok.mpr ⟨rest, hrest, rfl⟩⟩⟩

namespace PyVal

/-- `bool(value)`. -/
def truthy : PyVal → Bool
  | .null => false
  | .bool b => b
  | .int i => i ≠ 0
  | .float q => q ≠ 0
  | .str s => s ≠ ""
  | .datetime _ => true
  | .date _ => true
  | .bytes bs => !bs.isEmpty
  | .list xs => !xs.isEmpty
  | .dict items => !items.isEmpty
  | .set xs => !xs.isEmpty
  -- it has itself inside
  | .alias _ => true

/-- The key a value is in a dictionary; `none` for the unhashable ones. -/
def key? : PyVal → Option Key
  | .null => some .null
  | .bool b => some (.num (if b then 1 else 0))
  | .int i => some (.num i)
  | .float q => some (.num q)
  | .str s => some (.str s)
  | .datetime dt =>
      match dt.timestamp? with
      | some t => some (.instant t)
      | none => some (.naive dt.wall)
  | .date day => some (.date day)
  | .bytes bs => some (.bytes bs)
  | .list _ | .dict _ | .set _ | .alias _ => none

/-- `value == s` for a string `s`. -/
def isStr (s : String) : PyVal → Bool
  | .str t => t = s
  | _ => false

theorem isStr_iff {s : String} {v : PyVal} : v.isStr s = true ↔ v = .str s := by
  cases v <;> simp [isStr]

/-- `d.get(k)` on the items of a mapping. -/
def getItem? (items : List (Key × PyVal)) (k : String) : Option PyVal :=
  Dict.lookupEntry (.str k) items

mutual

/-- The value with `container` for each alias of what is `out` lists and mappings outside of it. -/
def fill (container : PyVal) (out : Nat) : PyVal → PyVal
  | .alias n => if n = out then container else .alias n
  | .list xs => .list (fillElements container (out + 1) xs)
  | .dict items => .dict (fillItems container (out + 1) items)
  | v => v

def fillElements (container : PyVal) (out : Nat) : List PyVal → List PyVal
  | [] => []
  | x :: xs => fill container out x :: fillElements container out xs

def fillItems (container : PyVal) (out : Nat) : List (Key × PyVal) → List (Key × PyVal)
  | [] => []
  | (k, v) :: items => (k, fill container out v) :: fillItems container out items

end

/-- The same value, where what is inside can be taken out: no alias in it is of this value. -/
def unrolled : PyVal → PyVal
  | .list xs => .list (fillElements (.list xs) 0 xs)
  | .dict items => .dict (fillItems (.dict items) 0 items)
  | v => v

end PyVal

/-! ## Numbers -/

/-- The zeros of Unicode's decimal digits; the other nine of each script follow its zero. -/
def digitZeros : List Nat :=
  [0x30, 0x660, 0x6F0, 0x7C0, 0x966, 0x9E6, 0xA66, 0xAE6, 0xB66, 0xBE6, 0xC66, 0xCE6, 0xD66, 0xDE6,
    0xE50, 0xED0, 0xF20, 0x1040, 0x1090, 0x17E0, 0x1810, 0x1946, 0x19D0, 0x1A80, 0x1A90, 0x1B50,
    0x1BB0, 0x1C40, 0x1C50, 0xA620, 0xA8D0, 0xA900, 0xA9D0, 0xA9F0, 0xAA50, 0xABF0, 0xFF10, 0x104A0,
    0x10D30, 0x11066, 0x110F0, 0x11136, 0x111D0, 0x112F0, 0x11450, 0x114D0, 0x11650, 0x116C0,
    0x11730, 0x118E0, 0x11950, 0x11C50, 0x11D50, 0x11DA0, 0x11F50, 0x16A60, 0x16AC0, 0x16B50,
    0x1D7CE, 0x1D7D8, 0x1D7E2, 0x1D7EC, 0x1D7F6, 0x1E140, 0x1E2F0, 0x1E4F0, 0x1E950, 0x1FBF0]

/-- `unicodedata.decimal`. -/
def decimal? (c : Char) : Option Nat :=
  (digitZeros.find? fun first => first ≤ c.toNat && c.toNat < first + 10).map (c.toNat - ·)

/-- What `int` skips around a literal: the blanks of C and those of Unicode beyond ASCII. -/
def isBlank (c : Char) : Bool :=
  c.toNat ∈ [0x20, 0x09, 0x0A, 0x0B, 0x0C, 0x0D, 0x85, 0xA0, 0x1680, 0x2028, 0x2029, 0x202F, 0x205F,
    0x3000] || (0x2000 ≤ c.toNat && c.toNat ≤ 0x200A)

/-- The digits of an `int` literal, `_` allowed between two of them. -/
def digitsOf : Option Nat → List Char → Option Nat
  | acc, [] => acc
  | acc, c :: cs =>
      match decimal? c with
      | some d => digitsOf (some (acc.getD 0 * 10 + d)) cs
      | none =>
          -- `1_000` is a literal, `_1`, `1_` and `1__0` are not
          if c = '_' then
            match acc, cs with
            | some n, d :: ds => if (decimal? d).isSome then digitsOf (some n) (d :: ds) else none
            | _, _ => none
          else none

/-- `sys.int_info.default_max_str_digits`: a literal with more digits is refused. -/
def maxStrDigits : Nat := 4300

/-- An `int` literal: surrounding blanks, a sign and decimal digits. -/
def intOfChars (cs : List Char) : Option Int :=
  let cs := ((cs.dropWhile isBlank).reverse.dropWhile isBlank).reverse
  if maxStrDigits < cs.countP fun c => (decimal? c).isSome then none
  else
    match cs with
    | '-' :: ds => (digitsOf none ds).map fun n => -(n : Int)
    | '+' :: ds => (digitsOf none ds).map Int.ofNat
    | ds => (digitsOf none ds).map Int.ofNat

/-- `int(s)` of a string. -/
def intOfStr (s : String) : Option Int := intOfChars s.toList

/-- `int(bs)` of bytes, where only ASCII counts. -/
def intOfBytes (bs : List UInt8) : Option Int :=
  if bs.all (· < 128) then intOfChars (bs.map fun b => Char.ofNat b.toNat) else none

example : intOfStr " -١_٢" = some (-12) ∧ intOfBytes [0x20, 0x34, 0x35] = some 45 := by decide

/-- `int(q)`, which drops the fraction. -/
def truncate (q : ℚ) : Int := if 0 ≤ q then ⌊q⌋ else ⌈q⌉

/-- `int(value)`. -/
def pyInt : PyVal → Except PyExc Int
  | .bool b => .ok (if b then 1 else 0)
  | .int i => .ok i
  | .float q => .ok (truncate q)
  | .str s =>
      match intOfStr s with
      | some i => .ok i
      | none => .error (.valueError "invalid literal for int() with base 10: " (some (.str s)))
  | .bytes bs =>
      match intOfBytes bs with
      | some i => .ok i
      | none => .error (.valueError "invalid literal for int() with base 10: " (some (.bytes bs)))
  | _ => .error (.typeError "int() argument must be a string or a real number")

/-- The nearest integer, a tie going to the even one. -/
def roundHalfEven (q : ℚ) : Int :=
  let f := ⌊q⌋
  if q - f < 1 / 2 then f
  else if 1 / 2 < q - f then f + 1
  else if f % 2 = 0 then f else f + 1

/-- `round(q, n)`. -/
def pyRound (q : ℚ) (n : Nat) : ℚ := roundHalfEven (q * 10 ^ n) / 10 ^ n

theorem floor_le_roundHalfEven (q : ℚ) : ⌊q⌋ ≤ roundHalfEven q := by
  simp only [roundHalfEven]
  split_ifs <;> omega

theorem roundHalfEven_le_floor (q : ℚ) : roundHalfEven q ≤ ⌊q⌋ + 1 := by
  simp only [roundHalfEven]
  split_ifs <;> omega

theorem roundHalfEven_mono {q r : ℚ} (h : q ≤ r) : roundHalfEven q ≤ roundHalfEven r := by
  rcases (Int.floor_mono h).lt_or_eq with hlt | heq
  · have hq := roundHalfEven_le_floor q
    have hr := floor_le_roundHalfEven r
    omega
  · -- one integer part: the greater fraction is rounded up if the smaller is
    simp only [roundHalfEven, heq]
    split_ifs <;> first | omega | linarith

theorem pyRound_mono {q r : ℚ} (h : q ≤ r) (n : Nat) : pyRound q n ≤ pyRound r n := by
  have hscaled : q * 10 ^ n ≤ r * 10 ^ n := by gcongr
  have hround : (roundHalfEven (q * 10 ^ n) : ℚ) ≤ roundHalfEven (r * 10 ^ n) :=
    Int.cast_le.mpr (roundHalfEven_mono hscaled)
  unfold pyRound
  gcongr

theorem pyRound_zero (n : Nat) : pyRound 0 n = 0 := by
  simp [pyRound, roundHalfEven]

theorem pyRound_nonneg {q : ℚ} (h : 0 ≤ q) (n : Nat) : 0 ≤ pyRound q n := by
  rw [← pyRound_zero n]
  exact pyRound_mono h n

/-- The least integer that no longer rounds to a finite float. -/
@[irreducible] def floatLimit : Nat := 2 ^ 1024 - 2 ^ 970

/-- An `int` operand of a float operation. -/
def floatOfInt (i : Int) : Except PyExc ℚ :=
  if i.natAbs < floatLimit then .ok i
  else .error (.overflowError "int too large to convert to float")

theorem floatOfInt_ok_iff {i : Int} {q : ℚ} :
    floatOfInt i = .ok q ↔ i.natAbs < floatLimit ∧ q = i := by
  unfold floatOfInt
  by_cases h : i.natAbs < floatLimit
  · rw [if_pos h]
    exact ⟨fun he => ⟨h, (Except.ok.inj he).symm⟩, fun ⟨_, he⟩ => by rw [he]⟩
  · rw [if_neg h]
    exact ⟨fun he => (nomatch he), fun ⟨h', _⟩ => absurd h' h⟩

end DatabusSim
