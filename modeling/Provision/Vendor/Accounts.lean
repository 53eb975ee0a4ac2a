import Provision.Vendor.Basic

/-!
# Accounts of databases

The actions that create, list, change and delete the accounts of a database instance.
-/

namespace Provision.Vendor

open Provision.Json

/-- An account that is listed. -/
structure ListedAccount where
  userName : Option String := none
  host : Option String := none
  description : Option String := none
  readOnly : Option Int := none
  maxUserConnections : Option Nat := none
deriving DecidableEq, Repr

/-- How an account is listed. -/
def listedAccount : Record ListedAccount where
  title := "struct DbAccount"
  blank := {}
  fields := [
    text "UserName" fun v a => { a with userName := v },
    text "Host" fun v a => { a with host := v },
    text "Description" fun v a => { a with description := v },
    unusedText "CreateTime",
    unusedText "UpdateTime",
    integer "ReadOnly" fun v a => { a with readOnly := v },
    unusedInteger "DelayThresh",
    .keeping "MaxUserConnections" (.option .nat64) fun v a => { a with maxUserConnections := v }]

/-- The accounts of an instance. -/
structure AccountList where
  instanceId : Option String := none
  users : List ListedAccount := []
deriving DecidableEq, Repr

/-- The answer with the accounts of an instance. -/
def accountList : Record AccountList where
  title := "struct DescribeAccountsResponse"
  blank := {}
  fields := [
    text "InstanceId" fun v a => { a with instanceId := v },
    .keeping "Users" (.list listedAccount.reading) fun v a => { a with users := v },
    requestId]

/-- The answer to a creation, of which the instance is used. -/
def createdAccount : Record (Option String) where
  title := "struct CreateAccountResponse"
  blank := none
  fields := [
    text "InstanceId" fun v _ => v,
    unusedText "UserName",
    unusedText "Host",
    unusedInteger "ReadOnly",
    requestId]

end Provision.Vendor

namespace Provision.Provider

open Provision.Vendor

/-- Creates an account; the answer may name the instance. -/
def createAccount (p : Provider) (body : Json) : Run (Option String) :=
  p.change "CreateAccount" (p.invoke .dcdb "CreateAccount" body createdAccount)

/-- Lists the accounts of an instance. -/
def describeAccounts (p : Provider) (instanceId : String) : Run AccountList :=
  p.ask "DescribeAccounts"
    (p.invoke .dcdb "DescribeAccounts" (.ofMembers [("InstanceId", .string instanceId)]) accountList)

/-- The members that name an account; the host is left out if it is not known. -/
def accountMembers (instanceId userName host : String) : List (String × Json) :=
  Json.present [
    ("InstanceId", some (.string instanceId)),
    ("UserName", some (.string userName)),
    ("Host", Json.nonEmpty? host)]

/-- Changes the description of an account. -/
def modifyAccountDescription (p : Provider) (instanceId userName host description : String) : Run Unit :=
  p.change "ModifyAccountDescription"
    (p.invoke .dcdb "ModifyAccountDescription"
      (.ofMembers (accountMembers instanceId userName host ++ [("Description", .string description)])) acknowledgement)

/-- Deletes an account. -/
def deleteAccount (p : Provider) (instanceId userName host : String) : Run Unit :=
  p.change "DeleteAccount"
    (p.invoke .dcdb "DeleteAccount" (.ofMembers (accountMembers instanceId userName host)) acknowledgement)

end Provision.Provider
