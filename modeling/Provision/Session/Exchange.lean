import Provision.Cloud.Product
import Provision.Json.Printer
import Provision.Url.Basic

/-!
# Exchanges with the vendor

A request as it is sent, what comes back for it, and the pair of both. A connection may be closed after the request
was received, or may never come about.
-/

namespace Provision

/-- A request as it is sent. A region or token that is left out has no header. -/
structure Posting where
  url : Url
  product : Product
  action : String
  region : Option String
  token : Option String
  authorization : String
  timestamp : Int
  body : Json
deriving Repr

namespace Posting

/-- The host of a URL, and its port if it is not the usual one. -/
def hostOf (url : Url) (host : String) : String :=
  match url.port with
  | some port => host ++ ":" ++ Text.Decimal.text port
  | none => host

/-- The host that a request is sent to. -/
def host (p : Posting) : String := hostOf p.url (p.url.host.getD "")

/-- The text of the body, as it is sent and signed. -/
def payload (p : Posting) : String := p.body.compact

end Posting

/-- What comes back for a request. -/
inductive Reply where
  | answer (status : Nat) (body : String)
  /-- The request was received, but the connection was closed without an answer. -/
  | closed
  /-- The request was not received. -/
  | unreachable
deriving DecidableEq, Repr

/-- A request and what came back for it. -/
structure Exchange where
  posting : Posting
  reply : Reply
deriving Repr

/-- Whether the vendor received the request of an exchange. -/
def Exchange.received (x : Exchange) : Bool := x.reply != .unreachable

end Provision
