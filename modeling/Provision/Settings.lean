import Provision.Json.Reading
import Provision.Provider

/-!
# Settings

What a user can set: region and credentials, where requests are sent, how long attempts go on, and how many calls are
made in a second. Settings are read from a file, then changed by variables of the environment; they are saved without
the secrets. Main statement: two settings that differ in the secrets only are saved alike (`saved_of_eq_except`).
-/

namespace Provision

/-- What a user can set. -/
structure Settings where
  region : Option String := none
  secretId : Option String := none
  secretKey : Option String := none
  securityToken : Option String := none
  /-- Where all requests are sent instead of the hosts of the products. -/
  endpoint : Option String := none
  domain : Option String := none
  writeTimeoutSeconds : Nat := 300
  readTimeoutSeconds : Nat := 180
  rateLimit : Nat := 20
  rateLimitOverrides : List (String × Nat) := []
deriving DecidableEq, Repr, Inhabited

/-- Why a file of settings cannot be used. -/
inductive SettingsFault where
  | unreadable (path : String)
  | unparsable (path : String) (why : Json.ReadFault)
  | endpoint (text : String) (why : Url.Fault)
deriving DecidableEq, Repr

/-- The wording of a fault. -/
def SettingsFault.message : SettingsFault → String
  | .unreadable path => "Failed to read config file " ++ path
  | .unparsable path why => "Failed to parse config file " ++ path ++ ": " ++ why.message
  | .endpoint text why => "Invalid endpoint `" ++ text ++ "`: " ++ why.message

namespace Settings

open Provision.Json

/-- How settings are read; what is missing keeps its usual value. -/
def record : Record Settings where
  title := "struct Config"
  blank := {}
  fields := [
    .keeping "region" (.option .text) fun v s => { s with region := v },
    .keeping "secret_id" (.option .text) fun v s => { s with secretId := v },
    .keeping "secret_key" (.option .text) fun v s => { s with secretKey := v },
    .keeping "security_token" (.option .text) fun v s => { s with securityToken := v },
    .keeping "endpoint" (.option .text) fun v s => { s with endpoint := v },
    .keeping "domain" (.option .text) fun v s => { s with domain := v },
    .keeping "write_timeout_secs" .nat64 fun v s => { s with writeTimeoutSeconds := v },
    .keeping "read_timeout_secs" .nat64 fun v s => { s with readTimeoutSeconds := v },
    .keeping "rate_limit" .nat32 fun v s => { s with rateLimit := v },
    .keeping "rate_limit_overrides" (.table .nat32) fun v s => { s with rateLimitOverrides := Json.sorted v }]

/-- A text or null. -/
def optional (s : Option String) : Json := (s.map Json.string).getD .null

/-- Settings as they are saved: all but the secrets. -/
def saved (s : Settings) : Json :=
  .object [
    ("region", optional s.region),
    ("secret_id", optional s.secretId),
    ("endpoint", optional s.endpoint),
    ("domain", optional s.domain),
    ("write_timeout_secs", .int s.writeTimeoutSeconds),
    ("read_timeout_secs", .int s.readTimeoutSeconds),
    ("rate_limit", .int s.rateLimit),
    ("rate_limit_overrides", .object (s.rateLimitOverrides.map fun o => (o.1, .int o.2)))]

/-- Settings without the secrets. -/
def withoutSecrets (s : Settings) : Settings := { s with secretKey := none, securityToken := none }

theorem saved_of_eq_except {s t : Settings} (h : s.withoutSecrets = t.withoutSecrets) : s.saved = t.saved := by
  simp only [withoutSecrets, Settings.mk.injEq] at h
  obtain ⟨h1, h2, -, -, h3, h4, h5, h6, h7, h8⟩ := h
  simp only [saved, h1, h2, h3, h4, h5, h6, h7, h8]

/-- Settings whose endpoint is a URL. -/
def check (readUrl : Url.Reader) (s : Settings) : Except SettingsFault Settings :=
  match s.endpoint with
  | none => .ok s
  | some text =>
    match readUrl text with
    | .ok _ => .ok s
    | .error why => .error (.endpoint text why)

/-- Reads settings from the text of the file of a path. -/
def ofText (readUrl : Url.Reader) (path text : String) : Except SettingsFault Settings :=
  match record.ofText text with
  | .error why => .error (.unparsable path why)
  | .ok s => s.check readUrl

/-- Reads settings from the file of a path. -/
def ofFile (readUrl : Url.Reader) (fs : Files) (path : String) : Except SettingsFault Settings :=
  match fs.read? path with
  | none => .error (.unreadable path)
  | some text => ofText readUrl path text

/-- Reads settings from the file of a path, or the usual ones if nothing is there. -/
def ofFileOrUsual (fs : Files) (path : String) : Except SettingsFault Settings :=
  if (fs.at? path).isSome then ofFile Url.parse fs path else .ok {}

/-- A variable of the environment that has a value. -/
def variableOf (env : List (String × String)) (name : String) : Option String := (env.lookup name).filter (· ≠ "")

/-- Settings changed by the variables of the environment. -/
def withVariables (env : List (String × String)) (s : Settings) : Settings :=
  { s with
    secretId := (variableOf env "TENCENTCLOUD_SECRET_ID").or s.secretId
    secretKey := (variableOf env "TENCENTCLOUD_SECRET_KEY").or s.secretKey
    securityToken := (variableOf env "TENCENTCLOUD_SECURITY_TOKEN").or s.securityToken
    region := (variableOf env "TENCENTCLOUD_REGION").or s.region }

/-- A path below a directory. -/
def below (directory name : String) : String :=
  if directory.toList.getLast? = some '/' then directory ++ name else directory ++ "/" ++ name

/-- The path of the settings of the user. -/
def usualPath? (env : List (String × String)) : Option String :=
  let directory := ((env.lookup "XDG_CONFIG_HOME").filter (·.toList.head? = some '/')).or
    ((variableOf env "HOME").map (below · ".config"))
  directory.map fun d => below (below d "tcdb") "config.json"

/-- The settings of the user, changed by the variables of the environment. -/
def load (fs : Files) (env : List (String × String)) : Except SettingsFault Settings :=
  match usualPath? env with
  | some path => (ofFileOrUsual fs path).map (·.withVariables env)
  | none => .ok (withVariables env {})

/-- Writes settings to the file of a path, whose directory is made if it is not there. -/
def save (fs : Files) (path : String) (s : Settings) : Files × Bool := fs.save path s.saved.pretty

/-- The region that is set, or the usual one. -/
def effectiveRegion (s : Settings) : String := (s.region.filter (· ≠ "")).getD Region.usual

/-- The rates that are set. -/
def rates (s : Settings) : Rates := ⟨s.rateLimit, s.rateLimitOverrides⟩

/-- The client that settings describe. -/
def client (s : Settings) (credentials : Credentials) : Client where
  credentials := credentials
  region := s.effectiveRegion
  rates := s.rates
  domain := s.domain.getD "tencentcloudapi.com"
  endpoint := s.endpoint.map Client.trimmed

/-- The provider that settings describe. -/
def provider (s : Settings) (out : Surroundings) : Except Failure Provider := do
  let credentials ← Credentials.make (s.secretId.getD "") (s.secretKey.getD "") s.securityToken
  if Region.isName s.effectiveRegion then
    .ok {
      client := s.client credentials
      out := out
      write := { timeout := s.writeTimeoutSeconds * Time.second }
      read := { timeout := s.readTimeoutSeconds * Time.second } }
  else .error (.invalid (.region s.effectiveRegion))

end Settings

end Provision
