import DatabusSim.Python

/-!
# JavaScript values

What `JSON.parse` makes of a text that `json.dumps` wrote, and the tests that the page applies to
such a value before it uses it.
-/

namespace DatabusSim

/-- A value out of `JSON.parse`; `undefined` is what a property that is not there reads as. -/
inductive Js where
  | undefined
  | null
  | bool (b : Bool)
  | num (q : ℚ)
  | str (s : String)
  | arr (xs : List Js)
  | obj (props : List (String × Js))
  deriving Inhabited

namespace Js

/-- `Boolean(v)`. -/
def truthy : Js → Bool
  | .undefined => false
  | .null => false
  | .bool b => b
  | .num q => q ≠ 0
  | .str s => s ≠ ""
  | .arr _ => true
  | .obj _ => true

/-- `v == null`. -/
def isNullish : Js → Bool
  | .undefined => true
  | .null => true
  | _ => false

/-- `v && typeof v === 'object'`. -/
def isObject : Js → Bool
  | .arr _ => true
  | .obj _ => true
  | _ => false

/-- `Array.isArray(v)`. -/
def isArray : Js → Bool
  | .arr _ => true
  | _ => false

/-- `v ?? w`. -/
def orElse (v w : Js) : Js :=
  match v with
  | .undefined => w
  | .null => w
  | v => v

/-- `v.k`, of a value that is no array index: only objects have such properties. -/
def prop (k : String) : Js → Js
  | .obj props => (Dict.lookupEntry k props).getD .undefined
  | _ => .undefined

/-- The properties that `{...v}` copies; an array gives its indices. -/
def spread : Js → List (String × Js)
  | .obj props => props
  | .arr xs => xs.zipIdx.map fun p => (toString p.2, p.1)
  | _ => []

@[simp] theorem prop_obj (k : String) (props : List (String × Js)) :
    (Js.obj props).prop k = (Dict.lookupEntry k props).getD .undefined := rfl

@[simp] theorem orElse_obj (props : List (String × Js)) (w : Js) :
    (Js.obj props).orElse w = .obj props := rfl

@[simp] theorem orElse_arr (xs : List Js) (w : Js) : (Js.arr xs).orElse w = .arr xs := rfl

/-- The integers that a double holds, each apart from its neighbours. -/
def Safe (i : Int) : Prop := i.natAbs ≤ 9007199254740991

instance (i : Int) : Decidable (Safe i) := inferInstanceAs (Decidable (_ ≤ _))

end Js

/-! ## From the encoder to the parser -/

/-- The text of a dictionary key; `text` is that of a key that is no string. -/
def keyText (text : Key → String) : Key → String
  | .str s => s
  | k => text k

mutual

/-- `JSON.parse(json.dumps(v))`, where that is encoded. -/
def parsed (text : Key → String) : PyVal → Js
  | .null => .null
  | .bool b => .bool b
  | .int i => .num i
  | .float q => .num q
  | .str s => .str s
  | .list xs => .arr (parsedElements text xs)
  | .dict items => .obj (parsedItems text [] items)
  -- these have no encoding
  | .datetime _ | .date _ | .bytes _ | .set _ | .alias _ => .undefined

def parsedElements (text : Key → String) : List PyVal → List Js
  | [] => []
  | x :: xs => parsed text x :: parsedElements text xs

/-- Of two items with one text for their keys the later one counts. -/
def parsedItems (text : Key → String) (props : List (String × Js)) :
    List (Key × PyVal) → List (String × Js)
  | [] => props
  | (k, v) :: items =>
      parsedItems text (Dict.setEntry (keyText text k) (parsed text v) props) items

end

theorem parsedElements_eq (text : Key → String) (xs : List PyVal) :
    parsedElements text xs = xs.map (parsed text) := by
  induction xs with
  | nil => rfl
  | cons x xs ih => rw [parsedElements, ih, List.map_cons]

end DatabusSim
