import DatabusSim.Domain.Fleet

/-!
# The databus client

An HTTP exchange either raises or answers a status and a body; the calls of
`DatabusClient` are functions of the exchange.
-/

namespace DatabusSim

/-- What one request to databus came to. `json` is `none` where `resp.json()`
raises. -/
inductive Http where
  | raised (exc : PyExc)
  | response (status : Nat) (json : Option PyVal)

structure CreateRunRequest where
  vehicleId : String
  operatorId : String
  routeId : String
  tripId : String
  directionId : Int
  shapeId : String
  scheduleRelationship : String
  deriving DecidableEq

structure CreateRunResponse where
  runId : String
  runLifecycleState : String
  deriving DecidableEq

namespace DatabusClient

/-- `resp.is_success`. -/
def isSuccess (status : Nat) : Bool := 200 ≤ status ∧ status ≤ 299

/-- `except DatabusError`. -/
def isDatabusError : PyExc → Bool
  | .databusError _ _ => true
  | _ => false

/-- A `str` field of a pydantic model. -/
def strField (model : String) (items : List (Key × PyVal)) (field : String) :
    Except PyExc String :=
  match PyVal.getItem? items field with
  | some (.str s) => .ok s
  | _ => .error (.validationError model field)

/-- `CreateRunResponse.model_validate`; `status` must be the literal `success`. -/
def validateResponse : PyVal → Except PyExc CreateRunResponse
  | .dict items => do
      let status ← strField "CreateRunResponse" items "status"
      if status ≠ "success" then .error (.validationError "CreateRunResponse" "status")
      else do
        let runId ← strField "CreateRunResponse" items "run_id"
        let state ← strField "CreateRunResponse" items "run_lifecycle_state"
        pure { runId, runLifecycleState := state }
  | _ => .error (.validationError "CreateRunResponse" "")

/-- `create_run`. Only a non-2xx answer becomes a `DatabusError`; a request that
raises, a body that is not JSON and one that is not a `CreateRunResponse` raise
their own exceptions. -/
def createRun : Http → Except PyExc CreateRunResponse
  | .raised exc => .error exc
  | .response status json =>
      if !isSuccess status then
        .error (.databusError ("create_run failed: HTTP " ++ toString status) (some status))
      else
        match json with
        | none => .error (.valueError "Expecting value" none)
        | some body => validateResponse body

/-- `_get_run`: the parsed body, or `None` on 404 and on any error it catches. -/
def getRun : Http → Except PyExc (Option PyVal)
  | .raised (.httpError _) => .ok none
  | .raised exc => .error exc
  | .response 404 _ => .ok none
  | .response status json =>
      if !isSuccess status then .ok none
      else
        match json with
        -- the body is not JSON
        | none => .ok none
        -- a JSON `null` is `None` to the caller, like a 404
        | some .null => .ok none
        | some body => .ok (some body)

/-- The value under `run_lifecycle_state`, as the state it stands for. -/
def stateOfValue (v : PyVal) : Option LifecycleState :=
  match v.key? with
  | some .null => none
  | some (.str s) => some (.ofValue s)
  | some k => some (.other k)
  | none => some .unhashable

/-- `get_run_state`. -/
def getRunState (h : Http) : Except PyExc (Option LifecycleState) := do
  match ← getRun h with
  | none => pure none
  | some (.dict items) => pure ((PyVal.getItem? items "run_lifecycle_state").bind stateOfValue)
  | some _ => .error (.attributeError "object has no attribute 'get'")

end DatabusClient

end DatabusSim
