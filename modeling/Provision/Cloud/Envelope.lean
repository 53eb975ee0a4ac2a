import Provision.Failure

/-!
# The envelope of answers

Every answer is an object with one member for its content, which names a refusal if the request was refused.
-/

namespace Provision.Envelope

/-- The content of an answer to an action, or the refusal that it names. -/
def content (action : String) (answer : Json) : Except Failure Json :=
  match answer.get? "Response" with
  | none => .error (.unreadable action (.mismatch .noEnvelope))
  | some response =>
    match response.get? "Error" with
    | some refusal =>
      .error (.refused (refusal.textOf "Code") (refusal.textOf "Message") (response.textOf "RequestId"))
    | none => .ok response

end Provision.Envelope
