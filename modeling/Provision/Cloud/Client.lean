import Provision.Cloud.Envelope
import Provision.Cloud.Region
import Provision.Cloud.Signature
import Provision.Cloud.Status
import Provision.Json.Scanner
import Provision.Session.Retry
import Provision.Text.Excerpt

/-!
# Calling actions

An action is called by a signed request whose body is the compact text of a JSON value. An answer counts if its status
is a success and its text an envelope; then its content is the result. A request whose headers cannot be written, or
whose URL is not one of the web, is not sent.
-/

namespace Provision

/-- What is needed to call actions of the vendor. -/
structure Client where
  credentials : Credentials
  region : String
  rates : Rates := {}
  domain : String := "tencentcloudapi.com"
  /-- Where all requests are sent instead of the hosts of the products. -/
  endpoint : Option String := none
  /-- How the URL of a request is read. -/
  readUrl : Url.Reader := Url.parse

namespace Client

/-- An endpoint without the slashes at its end. -/
def trimmed (endpoint : String) : String := String.ofList (Text.dropEnd (· == '/') endpoint.toList)

/-- The URL to which the requests of a product are sent. -/
def url (c : Client) (product : Product) : String :=
  match c.endpoint with
  | some endpoint => endpoint ++ "/"
  | none => "https://" ++ product.name ++ "." ++ c.domain ++ "/"

/-- Whether a text can be the value of a header. -/
def isHeaderValue (s : String) : Bool := s.toList.all fun c => (0x20 ≤ c.toNat && c.toNat != 0x7F) || c == '\t'

/-- The request for an action, signed at a second. -/
def posting (c : Client) (product : Product) (action : String) (body : Json) (timestamp : Int) :
    Except Failure Posting :=
  let target := c.url product
  match c.readUrl target with
  | .error why => .error (.invalid (.endpoint target why))
  | .ok url =>
    match url.host with
    | none => .error (.invalid (.hostless target))
    | some name =>
      let host := Posting.hostOf url name
      let authorization := c.credentials.authorization product.name host body.compact timestamp
      let region := if c.region = "" then none else some c.region
      let values := [authorization, action] ++ region.toList ++ c.credentials.token.toList
      if values.all isHeaderValue ∧ (url.scheme = "http" ∨ url.scheme = "https") then
        .ok ⟨url, product, action, region, c.credentials.token, authorization, timestamp, body⟩
      else .error .unanswered

end Client

namespace Run

/-- Sends a request and waits for what comes back: a status and a text. -/
def send (out : Surroundings) (p : Posting) : Run (Nat × String) := fun s =>
  let reply := out.reply s.exchanges p
  let s := { s with exchanges := ⟨p, reply⟩ :: s.exchanges, now := s.now + out.latency s.exchanges p }
  match reply with
  | .answer status body => (.ok (status, body), s)
  | .closed | .unreachable => (.error .unanswered, s)

/-- Waits for a slot of an action. -/
def pace (rates : Rates) (action : String) : Run Unit :=
  change fun s =>
    let (slot, slots) := Slots.reserve rates s.slots action s.now
    { s with slots := slots, now := Slots.wake s.now slot }

end Run

namespace Client

/-- The content of a text that came back with a status. -/
def readAnswer (action : String) (status : Nat) (text : String) : Run Json :=
  if Status.isSuccess status then
    match Json.parse? text with
    | some envelope => .ofExcept (Envelope.content action envelope)
    | none => .fail (.unreadable action .notJson)
  else do
    Run.log ⟨.error, "API error: " ++ Status.text status ++ " - " ++ Text.excerptText text, []⟩
    .fail (.badStatus status)

/-- Calls an action and gives the content of the answer. -/
def call (c : Client) (out : Surroundings) (product : Product) (action : String) (body : Json) : Run Json := do
  let timestamp ← Run.look (·.second out)
  let posting ← .ofExcept (c.posting product action body timestamp)
  let (status, text) ← Run.send out posting
  readAnswer action status text

end Client

end Provision
