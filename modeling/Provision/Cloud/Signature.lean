import Provision.Cloud.Credentials
import Provision.Digest.Hmac
import Provision.Time.Calendar

/-!
# Signatures

How a request is signed. A canonical form of the request names the host and the digest of the payload; the text to
sign names the second, the date and the service, and the digest of the canonical form. The key of the signature is
derived from the secret key by way of the date and the service.
-/

namespace Provision.Signature

/-- The name of the method. -/
def method : String := "TC3-HMAC-SHA256"

/-- The type of the payload of every request. -/
def contentType : String := "application/json; charset=utf-8"

/-- The headers that are signed. -/
def signedHeaders : String := "content-type;host"

/-- What a signature is valid for: a date and a service. -/
def scope (service : String) (timestamp : Int) : String :=
  Time.dateText timestamp ++ "/" ++ service ++ "/tc3_request"

/-- The canonical form of a request, with a given digest of texts. -/
def canonicalRequest (digest : String → String) (host payload : String) : String :=
  "POST\n/\n\ncontent-type:" ++ contentType ++ "\nhost:" ++ host ++ "\n\n" ++ signedHeaders ++ "\n" ++ digest payload

/-- The text that is signed, with a given digest of texts. -/
def stringToSign (digest : String → String) (service host payload : String) (timestamp : Int) : String :=
  method ++ "\n" ++ Text.Decimal.text timestamp ++ "\n" ++ scope service timestamp ++ "\n" ++
    digest (canonicalRequest digest host payload)

/-- The key of the signatures of one date and service. -/
def key (secretKey service : String) (timestamp : Int) : List UInt8 :=
  let date := Digest.hmac (Digest.utf8 ("TC3" ++ secretKey)) (Digest.utf8 (Time.dateText timestamp))
  Digest.hmac (Digest.hmac date (Digest.utf8 service)) (Digest.utf8 "tc3_request")

/-- The header for a given signature. -/
def header (secretId service : String) (timestamp : Int) (signature : String) : String :=
  method ++ " Credential=" ++ secretId ++ "/" ++ scope service timestamp ++ ", SignedHeaders=" ++ signedHeaders ++
    ", Signature=" ++ signature

end Provision.Signature

namespace Provision.Credentials

open Provision.Signature

/-- The header that authorizes a request to a service of a host. -/
def authorization (c : Credentials) (service host payload : String) (timestamp : Int) : String :=
  let text := stringToSign Digest.hexDigest service host payload timestamp
  header c.secretId service timestamp
    (Digest.hex (Digest.hmac (key c.secretKey service timestamp) (Digest.utf8 text)))

end Provision.Credentials
