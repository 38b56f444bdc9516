/-! Requests to the stages of the service, and what becomes of one that is not answered. -/

namespace NetInventory

/-- A request to a stage. -/
inductive StageRequest where
  | getStats
  | pruneNow
  | triggerNow
  | updateInterval
  | shutdown
deriving DecidableEq, Repr

/-- The name of a request in messages. -/
def StageRequest.name : StageRequest → String
  | getStats => "GetStats"
  | pruneNow => "PruneNow"
  | triggerNow => "TriggerNow"
  | updateInterval => "UpdateInterval"
  | shutdown => "Shutdown"

/-- Why a stage does not do what it is asked. -/
inductive StageError where
  /-- The inventory takes in no more messages. -/
  | ingestionStopped
  /-- The stage has stopped before the request was made. -/
  | unsent (request : StageRequest)
  /-- The stage has stopped before it answered. -/
  | unanswered
deriving DecidableEq, Repr

/-- The wording of an error. -/
def StageError.message : StageError → String
  | ingestionStopped => "ingestion is not running"
  | unsent request => "failed to send " ++ request.name ++ " command"
  | unanswered => "failed to receive response"

end NetInventory
