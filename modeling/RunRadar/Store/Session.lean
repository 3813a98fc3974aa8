import RunRadar.Sql.Query
import RunRadar.Store.Basic
import RunRadar.Store.Row

/-!
# RunRadar.Store.Session

A **storage in a database**, as one side of a conversation: statements go out, one after the
other, and to each of them comes one reply. What the database does in between is its own
affair, so the replies that are still to come are simply given.
-/

namespace RunRadar

/-- The reply to a statement. -/
inductive Reply
  | rows (rows : List Row)
  /-- No rows; so many were changed. -/
  | changed (count : Nat)
  /-- The statement was refused. -/
  | refused (text : String)
deriving DecidableEq

namespace Reply

/-- A refused statement has no result. -/
def refusal (text : String) : StoreError := .database (.refused text)

/-- The result of a statement whose reply cannot be used. -/
def unusable : StoreError := .database .unusable

/-- What a row stands for, which has to be something. -/
def readRow {α : Type} (read : Row → Option α) (row : Row) : Except StoreError α :=
  match read row with
  | some a => .ok a
  | none => .error unusable

/-- The rows of a reply. -/
def rows? : Reply → Except StoreError (List Row)
  | .rows found => .ok found
  | .changed _ => .ok []
  | .refused text => .error (refusal text)

/-- What all rows stand for. -/
def readAll {α : Type} (read : Row → Option α) (reply : Reply) : Except StoreError (List α) :=
  match reply.rows? with
  | .error e => .error e
  | .ok found => found.mapM (readRow read)

/-- What the first row stands for, if there is one. Further rows are not looked at. -/
def readFirst {α : Type} (read : Row → Option α) (reply : Reply) :
    Except StoreError (Option α) :=
  match reply.rows? with
  | .error e => .error e
  | .ok [] => .ok none
  | .ok (row :: _) => (readRow read row).map some

/-- What the first row stands for, which has to be there. -/
def readOne {α : Type} (read : Row → Option α) (reply : Reply) : Except StoreError α :=
  match reply.readFirst read with
  | .error e => .error e
  | .ok none => .error unusable
  | .ok (some a) => .ok a

/-- How many rows a statement was about. -/
def count : Reply → Except StoreError Nat
  | .rows found => .ok found.length
  | .changed n => .ok n
  | .refused text => .error (refusal text)

end Reply

/-- A conversation: the replies to come, and the statements sent so far. -/
structure Session where
  replies : List Reply
  sent : List Sql.Statement := []

namespace Session

/-- The reply when there are none left. -/
def silence : Reply := .refused "no reply"

/-- Sends a statement and takes the next reply. -/
def send (s : Session) (statement : Sql.Statement) : Reply × Session :=
  let sent := s.sent ++ [statement]
  match s.replies with
  | [] => (silence, { s with sent })
  | reply :: replies => (reply, { replies, sent })

/-- Sends a statement and makes something of the reply. -/
def ask {α : Type} (statement : Sql.Statement) (use : Reply → Except StoreError α) :
    StoreStep Session α := fun s =>
  let (reply, s) := s.send statement
  (use reply, s)

/-- Every statement sent is put behind the earlier ones. -/
@[simp] theorem sent_ask {α : Type} (statement : Sql.Statement)
    (use : Reply → Except StoreError α) (s : Session) :
    (ask statement use s).2.sent = s.sent ++ [statement] := by
  unfold ask send
  cases s.replies <;> rfl

/-- The requests of the engine, as statements. Nothing is asked about no runs at all. -/
def storage : Storage Session where
  listRadars := ask Sql.listRadars (Reply.readAll Row.radar?)
  fetchUnscored := fun radar scope limit =>
    ask (Sql.unscoredRuns radar.project radar.id scope limit) (Reply.readAll Row.run?)
  runMatches := fun run p => ask (Sql.runMatches run.id p) (Reply.readOne Row.exists?)
  matchingIds := fun ids p =>
    if ids.isEmpty then fun s => (.ok [], s)
    else ask (Sql.matchingIds ids p) fun reply =>
      (reply.readAll Row.id?).map Uuid.distinctSorted
  insertResult := fun score =>
    ask (Sql.insertResult score) fun reply => reply.count.map fun _ => ()

end Session

end RunRadar
