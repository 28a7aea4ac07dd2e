import AiGateway.CountedBody
import AiGateway.InFlightLimit

/-! The count of requests in flight of each workspace, kept in Redis: an increment and a
refreshed lifetime before the inner call, a decrement when the response body is done. -/

namespace AiGateway.WorkspaceConcurrency

abbrev Uuid := BitVec 128

def placeholderWorkspace : Uuid := 0

/-- Where a request stands in `call`: the increment is sent, then run, then answered;
after that the same connection refreshes the key's lifetime. `ended` says that the inner
body of a response has ended or failed. -/
inductive Stage where
  | arrived
  | incrementing (ran : Bool)
  | expiring
  | orphaned
  | handling (incrOk : Bool)
  | responding (body : CountedBody Uuid) (ended : Bool)
  | uncounted
  | finished
  deriving DecidableEq, Repr

structure Request where
  workspace : Uuid
  stage : Stage
  deriving DecidableEq, Repr

/-- `counters` are the numbers under the workspaces' keys, zero for a key that does not
exist; `releases` are the spawned decrements that have not ended. -/
structure State where
  counters : Uuid → Nat
  requests : List Request
  releases : List Uuid

def State.start : State := ⟨fun _ => 0, [], []⟩

inductive Event where
  | arrive (orgId : Option Uuid)
  | poll (request : Nat)
  | runIncr (request : Nat)
  | incrReply (request : Nat) (ok : Bool)
  | expireReply (request : Nat) (ok : Bool)
  | respond (request : Nat) (ok : Bool)
  | dropFuture (request : Nat)
  | pollFrame (request : Nat) (terminate : Bool)
  | dropBody (request : Nat)
  | decrement (release : Nat) (executed : Bool)
  deriving DecidableEq, Repr

namespace State

def move (state : State) (index : Nat) (request : Request) (stage : Stage) : State :=
  { state with requests := state.requests.set index { request with stage := stage } }

def increment (state : State) (workspace : Uuid) : State :=
  { state with counters := Function.update state.counters workspace (state.counters workspace + 1) }

/-- `on_release` spawns the decrement of the workspace it captured. -/
def releaseAny (state : State) (workspace : Option Uuid) : State :=
  match workspace with
  | none => state
  | some workspace => { state with releases := state.releases ++ [workspace] }

end State

/-- `configured` says whether the application has a Redis. -/
def step (configured : Bool) (state : State) : Event → Option State
  | .arrive orgId => some { state with requests := state.requests ++ [⟨orgId.getD placeholderWorkspace, .arrived⟩] }
  | .poll index =>
    match state.requests[index]? with
    | some request =>
      match request.stage with
      | .arrived => some (state.move index request (if configured then .incrementing false else .handling false))
      | _ => none
    | none => none
  | .runIncr index =>
    match state.requests[index]? with
    | some request =>
      match request.stage with
      | .incrementing false => some ((state.increment request.workspace).move index request (.incrementing true))
      | .orphaned => some ((state.increment request.workspace).move index request .finished)
      | _ => none
    | none => none
  | .incrReply index ok =>
    match state.requests[index]? with
    | some request =>
      match request.stage, ok with
      | .incrementing true, true => some (state.move index request .expiring)
      | .incrementing _, false => some (state.move index request (.handling false))
      | _, _ => none
    | none => none
  | .expireReply index ok =>
    match state.requests[index]? with
    | some request =>
      match request.stage with
      | .expiring => some (state.move index request (.handling ok))
      | _ => none
    | none => none
  | .respond index ok =>
    match state.requests[index]? with
    | some request =>
      match request.stage with
      | .handling incrOk =>
        if !ok then some (state.move index request .finished)
        else if !incrOk then some (state.move index request .uncounted)
        else some (state.move index request (.responding (.new request.workspace) false))
      | _ => none
    | none => none
  | .dropFuture index =>
    match state.requests[index]? with
    | some request =>
      match request.stage with
      | .incrementing false => some (state.move index request .orphaned)
      | .arrived | .incrementing true | .expiring | .handling _ => some (state.move index request .finished)
      | _ => none
    | none => none
  | .pollFrame index terminate =>
    match state.requests[index]? with
    | some request =>
      match request.stage with
      | .responding body ended =>
        let (body, fired) := body.pollFrame terminate
        some ((state.releaseAny fired).move index request (.responding body (ended || terminate)))
      | _ => none
    | none => none
  | .dropBody index =>
    match state.requests[index]? with
    | some request =>
      match request.stage with
      | .responding body _ => some ((state.releaseAny body.drop).move index request .finished)
      | _ => none
    | none => none
  | .decrement release executed =>
    match state.releases[release]? with
    | some workspace =>
      let count := state.counters workspace
      some { state with
        counters := Function.update state.counters workspace (if executed then InFlightLimit.decrFloor count else count)
        releases := state.releases.eraseIdx release }
    | none => none

/-- The workspace of a request that was incremented and whose handling future is alive, or whose
response body has neither ended nor been dropped. -/
def Request.counted (request : Request) : Option Uuid :=
  match request.stage with
  | .incrementing true | .expiring | .handling true => some request.workspace
  | .responding body ended => if ended then none else some body.onRelease
  | _ => none

def State.inFlight (state : State) (workspace : Uuid) : Nat :=
  state.requests.countP fun request => request.counted == some workspace

def State.releasing (state : State) (workspace : Uuid) : Nat := state.releases.countP fun released => released == workspace

end AiGateway.WorkspaceConcurrency
