import Provision.Failure
import Provision.Text.Blank

/-!
# Credentials

The pair of secret texts that a request is signed with, and a token that goes with some of them. Their shown form
hides all but the identifier.
-/

namespace Provision

/-- A secret identifier and its key, and the token of a temporary session. -/
structure Credentials where
  secretId : String
  secretKey : String
  token : Option String
deriving DecidableEq

namespace Credentials

/-- Credentials from their parts: neither of the secrets may be blank, and an empty token is none. -/
def make (secretId secretKey : String) (token : Option String) : Except Failure Credentials :=
  if Text.isBlankText secretId then .error (.invalid .noSecretId)
  else if Text.isBlankText secretKey then .error (.invalid .noSecretKey)
  else .ok ⟨secretId, secretKey, token.filter (· ≠ "")⟩

/-- The form in which credentials are shown. -/
def shown (c : Credentials) : String :=
  "Credentials \x7b secret_id: " ++ Text.Quoted.quote c.secretId ++ ", secret_key: \"***\", security_token: " ++
    (if c.token.isSome then "Some(\"***\")" else "None") ++ " \x7d"

end Credentials

end Provision
