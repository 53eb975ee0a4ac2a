import Provision.Session.Basic

/-!
# Scripted answers

Surroundings that follow a script: a list of rules, of which the first that fits a request answers it. A rule may fit
one action only, ask for members of the body, and fit no more than a number of times.
-/

namespace Provision

/-- A rule of a script. -/
structure Rule where
  action : Option String := none
  members : List (String × Json) := []
  times : Option Nat := none
  reply : Reply

namespace Rule

/-- Whether a request has the action and the members of a rule. -/
def fits (r : Rule) (p : Posting) : Bool :=
  r.action.all (· == p.action) && r.members.all fun m => (p.body.get? m.1).any (m.2.same ·)

/-- A rule after it answered once. -/
def spend (r : Rule) : Rule := { r with times := r.times.map (· - 1) }

end Rule

namespace Script

/-- The reply of the first rule that fits, and the rules after it. -/
def step (rules : List Rule) (otherwise : Posting → Reply) (p : Posting) : Reply × List Rule :=
  match rules with
  | [] => (otherwise p, [])
  | r :: rest =>
    if r.fits p && r.times != some 0 then (r.reply, r.spend :: rest)
    else
      let later := step rest otherwise p
      (later.1, r :: later.2)

/-- The rules that remain after earlier exchanges, of which the latest comes first. -/
def after (rules : List Rule) (otherwise : Posting → Reply) (earlier : List Exchange) : List Rule :=
  earlier.foldr (fun x rules => (step rules otherwise x.posting).2) rules

/-- Surroundings that follow a script; every answer takes the same time. -/
def surroundings (rules : List Rule) (otherwise : Posting → Reply) (latency : Nat) : Surroundings where
  epoch := 1700000000
  reply earlier p := (step (after rules otherwise earlier) otherwise p).1
  latency _ _ := latency
  jitter _ := .none
  clock := .steady
  pick _ := 0

end Script

end Provision
