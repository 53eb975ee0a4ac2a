import Provision.Provider

/-!
# Answers of the vendor

What the answers of several actions have in common. The members of an answer may all be missing; those that the
library does not use are still read, so that an answer in which one of them is of a wrong kind is not accepted.
-/

namespace Provision.Vendor

open Provision.Json

variable {σ : Type}

/-- A text that is kept. -/
def text (name : String) (put : Option String → σ → σ) : Record.Field σ := .keeping name (.option .text) put

/-- An integer that is kept. -/
def integer (name : String) (put : Option Int → σ → σ) : Record.Field σ := .keeping name (.option .int64) put

/-- A text that is not used. -/
def unusedText (name : String) : Record.Field σ := .checked name (.option .text)

/-- An integer that is not used. -/
def unusedInteger (name : String) : Record.Field σ := .checked name (.option .int64)

/-- The name that the vendor gives to the request. -/
def requestId : Record.Field σ := unusedText "RequestId"

/-- An answer of which nothing is used. -/
def acknowledgement : Record Unit := ⟨"struct EmptyResponse", (), [requestId]⟩

/-- The type under which databases are known to the actions about security groups. -/
def databaseType : String := "dcdb"

end Provision.Vendor
