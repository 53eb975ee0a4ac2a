import Provision.Cloud.Client
import Provision.Json.Reading

/-!
# The provider

What every operation needs: a client, what is around it, and the budgets of changes and of questions. Each call of an
action waits for its slot and leaves one line in the log, in which no password is shown.
-/

namespace Provision

/-- What every operation needs. -/
structure Provider where
  client : Client
  out : Surroundings
  write : Budget := { timeout := Budget.writeTimeout }
  read : Budget := { timeout := Budget.readTimeout }

namespace Provider

/-- The members of a request that are not shown. -/
def hidden : List String := ["Password"]

/-- A body as it is shown: the hidden members have another value. -/
def shownBody : Json → Json
  | .object members => .object (members.map fun m => if hidden.contains m.1 then (m.1, .string "***") else m)
  | body => body

/-- The text of a body in the log. -/
def loggedBody (body : Json) : String := Text.excerptText (shownBody body).compact

/-- The line of the log for a call that succeeded. -/
def successLine (action : String) (body : Json) : LogLine :=
  ⟨.debug, "api[" ++ action ++ "] success, request body [" ++ loggedBody body ++ "]", []⟩

/-- The line of the log for a call that failed. -/
def failureLine (action : String) (body : Json) (e : Failure) : LogLine :=
  ⟨.error, "api[" ++ action ++ "] fail, request body [" ++ loggedBody body ++ "], reason[" ++ e.message ++ "]", []⟩

/-- The content of an answer as a value of a type. -/
def readContent {α : Type} (action : String) (answer : Json.Record α) (content : Json) : Except Failure α :=
  (answer.ofValue content).mapError fun why => .unreadable action (.mismatch why)

/-- Calls an action when its slot has come, and reads the answer as a record. -/
def invoke {α : Type} (p : Provider) (product : Product) (action : String) (body : Json) (answer : Json.Record α) :
    Run α := do
  Run.pace p.client.rates action
  fun s =>
    match (p.client.call p.out product action body >>= fun c => Run.ofExcept (readContent action answer c)) s with
    | (.ok a, s) => (.ok a, s.logged (successLine action body))
    | (.error e, s) => (.error e, s.logged (failureLine action body e))

/-- A change, attempted within the budget of changes. -/
def change {α : Type} (p : Provider) (operation : String) (act : Run α) : Run α :=
  Run.retried p.out p.write operation act

/-- A question, attempted within the budget of questions. -/
def ask {α : Type} (p : Provider) (operation : String) (act : Run α) : Run α :=
  Run.retried p.out p.read operation act

end Provider

end Provision
