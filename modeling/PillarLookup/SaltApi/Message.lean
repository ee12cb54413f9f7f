import PillarLookup.Config
import PillarLookup.Json.Shape
import PillarLookup.Query

/-!
# Messages

The bodies of the requests, and what the answers to them hold. An answer is a
structure whose only field is a list, of which the first element counts.
-/

namespace PillarLookup.SaltApi

/-- The function that reads a pillar on a minion. -/
def pillarFunction : String := "pillar.get"

/-- The function that returns the values of a job so far. -/
def lookupFunction : String := "jobs.lookup_jid"

def loginBody (config : Config) : Json :=
  .obj
    [("eauth", .str config.eauth), ("password", .str config.password),
      ("username", .str config.username)]

def publishBody (query : Query) : Json :=
  .arr
    [.obj
      [("arg", .arr [.str query.pillar]), ("client", .str "local_async"),
        ("fun", .str pillarFunction), ("tgt", .str query.target),
        ("tgt_type", .str query.targetType.name)]]

def lookupBody (job : String) : Json :=
  .arr [.obj [("client", .str "runner"), ("fun", .str lookupFunction), ("jid", .str job)]]

/-- The structure around every answer. -/
def returnShape {α : Type} (item : Nat → Json.Reader α) : Json.Shape (List α) where
  structName := "SaltResponse"
  field := "return"
  read := Json.readList item
  absent := []
  emptyListAllowed := true

def tokenShape : Json.Shape (Option String) where
  structName := "LoginReturn"
  field := "token"
  read _ := Json.readOptionalString
  absent := none
  emptyListAllowed := false

def loginShape : Json.Shape (List (Option String)) :=
  returnShape tokenShape.reader

def publishShape : Json.Shape (List Json) :=
  returnShape Json.readValue

def lookupShape : Json.Shape (List (Members Json)) :=
  returnShape (Json.readMap Json.readValue)

/-- What the answer to a publication says. -/
inductive Publication where
  | job (id : String) (minions : List String)
  | noMinions
  | incomplete (reply : String)
deriving DecidableEq, Repr

/-- The strings in a list; of anything else there are none. -/
def stringsIn : Option Json → List String
  | some (.arr items) => items.filterMap Json.asString?
  | _ => []

namespace Publication

/-- The id of the job, if there is one. -/
def jobId? (value : Json) : Option String :=
  (value.get? "jid").bind Json.asString?

def ofValue (value : Json) : Publication :=
  match jobId? value with
  | some id => .job id (stringsIn (value.get? "minions"))
  | none =>
      match value with
      | .obj [] => .noMinions
      | _ => .incomplete value.text

end Publication

end PillarLookup.SaltApi
