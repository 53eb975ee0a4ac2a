import Provision.Json.Mismatch
import Provision.Schema.Validation
import Provision.Time.Span
import Provision.Url.Basic

/-!
# Failures

Everything that can go wrong in an operation. A failure of the vendor is judged by the beginning of its code alone:
some codes promise that another attempt may succeed, others say that what was asked for does not exist. Main
statement: no failure is of both kinds (`not_absent_of_retryable`).
-/

namespace Provision

/-- Why settings, documents or answers cannot be used. -/
inductive Invalid where
  | noSecretId
  | noSecretKey
  | region (name : String)
  | endpoint (url : String) (why : Url.Fault)
  | hostless (url : String)
  /-- A state document of another type. -/
  | foreignState (found expected : String)
  | projectId (group : String) (why : Text.Decimal.Fault)
  /-- Any other reason, in words. -/
  | stated (reason : String)
deriving DecidableEq, Repr

/-- The wording of a reason. -/
def Invalid.message : Invalid → String
  | .noSecretId => "secret_id is empty, set TENCENTCLOUD_SECRET_ID or secret_id in the config file"
  | .noSecretKey => "secret_key is empty, set TENCENTCLOUD_SECRET_KEY or secret_key in the config file"
  | .region name => "invalid region `" ++ name ++ "`"
  | .endpoint url why => "invalid endpoint " ++ url ++ ": " ++ why.message
  | .hostless url => "endpoint " ++ url ++ " has no host"
  | .foreignState found expected => "state is for `" ++ found ++ "`, not `" ++ expected ++ "`"
  | .projectId group why => "security group " ++ group ++ " project id invalid: " ++ why.message
  | .stated reason => reason

/-- Why an operation failed. -/
inductive Failure where
  /-- The vendor refused the request. -/
  | refused (code message requestId : String)
  /-- A status that is no success. -/
  | badStatus (status : Nat)
  /-- The request could not be sent, or no answer came back. -/
  | unanswered
  /-- An answer that cannot be read. -/
  | unreadable (action : String) (why : Json.ReadFault)
  /-- An accepted creation of which the answer names no instance. -/
  | unnamed (action : String)
  /-- An instance that is not running yet. -/
  | notReady (id : String) (status : Int)
  /-- There is no resource of this identity. -/
  | absent (kind id : String)
  /-- An identity that does not have the parts that it needs. -/
  | brokenId (id : String)
  /-- A change of a field that cannot change. -/
  | notUpdatable (field : String)
  /-- A configuration that breaks the schema of its type. -/
  | violation (typeName : String) (why : Violation)
  | invalid (why : Invalid)
  /-- Attributes that are not those of a type. -/
  | badAttributes (kind : String) (why : Json.Mismatch)
  /-- A result that could not be written to a file. -/
  | unwritten (path cause : String)
  | unknownType (name : String)
  /-- An operation whose time was over, after the given nanoseconds, while another attempt might have succeeded. -/
  | timedOut (operation : String) (elapsed : Nat) (last : Failure)
deriving DecidableEq, Repr, Inhabited

namespace Failure

/-- The wording of a failure. -/
def message : Failure → String
  | .refused code text requestId =>
    "[TencentCloudSDKError] Code=" ++ code ++ ", Message=" ++ text ++ ", RequestId=" ++ requestId
  | .badStatus status => "API request failed: " ++ Text.Decimal.text status
  | .unanswered => "failed to send request"
  | .unreadable action why => "failed to decode " ++ action ++ " response: " ++ why.message
  | .unnamed action => action ++ " returned no instance id"
  | .notReady id status => "instance " ++ id ++ " is not ready yet (status " ++ Text.Decimal.text status ++ ")"
  | .absent kind id => "resource `" ++ kind ++ "` " ++ id ++ " does not exist"
  | .brokenId id => "id is broken," ++ id
  | .notUpdatable field => "`" ++ field ++ "` do not support change now."
  | .violation typeName why =>
    match why with
    | .conflict _ _ => why.message typeName
    | _ => "invalid configuration: " ++ why.message typeName
  | .invalid why => "invalid configuration: " ++ why.message
  | .badAttributes kind why => "invalid attributes for " ++ kind ++ ": " ++ why.message
  | .unwritten path cause => "failed to write " ++ path ++ ": " ++ cause
  | .unknownType name => "unknown resource type: " ++ name
  | .timedOut operation elapsed last =>
    operation ++ " timed out after " ++ Time.spanText elapsed ++ ": " ++ last.message

/-! ## Classes of failures -/

/-- Beginnings of the codes that promise another attempt. -/
def retryableCodes : List String :=
  ["InternalError", "RequestLimitExceeded", "ResourceInUse", "ResourceBusy", "ResourceUnavailable",
    "FailedOperation.InstanceStatusError"]

/-- Beginnings of the codes that say that something does not exist. -/
def absentCodes : List String :=
  ["ResourceNotFound", "InvalidParameter.NotFound", "InvalidParameterValue.NotFound", "InvalidInstanceId.NotFound"]

/-- Whether a text begins with another one. -/
def beginsWith (start text : String) : Bool := start.toList.isPrefixOf text.toList

/-- Whether a code begins with an entry of a list. -/
def listed (codes : List String) (code : String) : Bool := codes.any (beginsWith · code)

/-- Whether another attempt may succeed. -/
def retryable : Failure → Bool
  | .refused code _ _ => listed retryableCodes code
  | .badStatus status => status == 429 || 500 ≤ status
  | .unanswered | .notReady _ _ => true
  | _ => false

/-- Whether a failure says that the resource does not exist. -/
def saysAbsent : Failure → Bool
  | .refused code _ _ => listed absentCodes code
  | .absent _ _ => true
  | _ => false

/-- The code of a refusal. -/
def code? : Failure → Option String
  | .refused code _ _ => some code
  | _ => none

/-- The wording for the person at the terminal: advice where there is some. -/
def advice (f : Failure) : String :=
  match f with
  | .refused code _ _ =>
    if beginsWith "AuthFailure" code then
      "Authentication failed. Check TENCENTCLOUD_SECRET_ID / TENCENTCLOUD_SECRET_KEY."
    else if beginsWith "UnauthorizedOperation" code then
      "Permission denied. Check the CAM policy attached to these credentials."
    else f.message
  | .badStatus status =>
    if status = 401 ∨ status = 403 then "Authentication failed."
    else if 500 ≤ status then "Tencent Cloud service temporarily unavailable. Please try again."
    else f.message
  | .unanswered => "Request failed. Check your network connection and try again."
  | _ => f.message

/-! ## No failure is of both classes -/

theorem beginsWith_total {a b text : String} (ha : beginsWith a text = true) (hb : beginsWith b text = true) :
    beginsWith a b = true ∨ beginsWith b a = true := by
  simp only [beginsWith, List.isPrefixOf_iff_prefix] at *
  exact List.prefix_or_prefix_of_prefix ha hb

theorem listed_disjoint (code : String) (h : listed retryableCodes code = true) : listed absentCodes code = false := by
  refine Bool.eq_false_iff.2 fun h' => ?_
  obtain ⟨a, ha, hac⟩ := List.any_eq_true.1 h
  obtain ⟨b, hb, hbc⟩ := List.any_eq_true.1 h'
  have apart : ∀ a ∈ retryableCodes, ∀ b ∈ absentCodes, ¬(beginsWith a b = true ∨ beginsWith b a = true) := by
    simp only [retryableCodes, absentCodes, List.mem_cons, List.not_mem_nil, or_false, forall_eq_or_imp, forall_eq,
      beginsWith]
    decide
  exact apart a ha b hb (beginsWith_total hac hbc)

/-- **No failure promises another attempt and says that the resource does not exist.** -/
theorem not_absent_of_retryable (f : Failure) (h : f.retryable = true) : f.saysAbsent = false := by
  cases f with
  | refused code => exact listed_disjoint code h
  | absent => simp [retryable] at h
  | _ => rfl

end Failure

end Provision
