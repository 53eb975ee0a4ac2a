import Provision.SecurityGroups.Query
import Provision.Text.Decimal

/-!
# The words of the command line

A command line is a list of words: options, the name of a command, and the options of that command. Options that every
command has may stand before or behind its name; behind it they count for more. Words are read from the left, and the
first that does not fit ends the reading. Main statement: an option is not taken twice (`take_of_taken`).
-/

namespace Provision.Cli

/-! ## Options -/

/-- How much is wanted in the log. -/
inductive Verbosity where
  | off
  | error
  | warn
  | info
  | debug
  | trace
deriving DecidableEq, Repr

/-- The verbosity of a name. -/
def Verbosity.ofName? (name : String) : Option Verbosity :=
  [("off", .off), ("error", .error), ("warn", .warn), ("info", .info), ("debug", .debug), ("trace", .trace)].lookup name

/-- What the value of an option has to be. -/
inductive Form where
  | text
  /-- A path has at least one character. -/
  | path
  | integer
  | verbosity
deriving DecidableEq, Repr

/-- The 64-bit integer that a text writes. -/
def integer? (s : String) : Option Int := (Text.Decimal.readInt64 s.toList).toOption

/-- Whether a text has a form. -/
def Form.accepts (s : String) : Form → Bool
  | .text => true
  | .path => s != ""
  | .integer => (integer? s).isSome
  | .verbosity => (Verbosity.ofName? s).isSome

/-- An option, which has a value: its name, and the letter that stands for it. -/
structure Parameter where
  name : String
  letter : Option Char := none
  form : Form := .text
deriving DecidableEq, Repr

/-! ## Commands -/

/-- What the program can do. -/
inductive Verb where
  | schema
  | plan
  | apply
  | read
  | takeOver
  | delete
  | securityGroups
  | regions
deriving DecidableEq, Repr

namespace Verb

/-- All commands, in the order in which they are shown. -/
def all : List Verb := [.schema, .plan, .apply, .read, .takeOver, .delete, .securityGroups, .regions]

/-- The name of a command. -/
def name : Verb → String
  | .schema => "schema"
  | .plan => "plan"
  | .apply => "apply"
  | .read => "read"
  | .takeOver => "import"
  | .delete => "delete"
  | .securityGroups => "security-groups"
  | .regions => "regions"

/-- What a command does. -/
def summary : Verb → String
  | .schema => "Print the schema of one resource type, or of all of them"
  | .plan => "Show what apply would do"
  | .apply => "Converge the resource towards the desired configuration"
  | .read => "Refresh a state file from the vendor"
  | .takeOver => "Build a state file from an existing resource id"
  | .delete => "Delete the resource recorded in a state file"
  | .securityGroups => "Query security groups"
  | .regions => "List well-known regions"

/-- The command of a name. -/
def ofName? (name : String) : Option Verb := all.find? (·.name == name)

theorem ofName?_name (v : Verb) : ofName? v.name = some v := by cases v <;> rfl

end Verb

/-- The options that every command has. -/
def sharedParameters : List Parameter :=
  [⟨"region", some 'r', .text⟩, ⟨"endpoint", none, .text⟩, ⟨"config", none, .path⟩, ⟨"log-level", none, .verbosity⟩]

/-- The option for the type of a resource. -/
def typeParameter : Parameter := ⟨"type", some 't', .text⟩

/-- The option for the file of a desired configuration. -/
def desiredParameter : Parameter := ⟨"desired", some 'd', .path⟩

/-- The option for the file of a state. -/
def stateParameter : Parameter := ⟨"state", some 's', .path⟩

/-- The options that only this command has. -/
def Verb.parameters : Verb → List Parameter
  | .schema | .regions => []
  | .plan | .apply => [typeParameter, desiredParameter, stateParameter]
  | .read | .delete => [stateParameter]
  | .takeOver => [typeParameter, ⟨"id", none, .text⟩, stateParameter]
  | .securityGroups =>
    [⟨"security-group-id", none, .text⟩, ⟨"name", none, .text⟩, ⟨"project-id", none, .integer⟩,
      ⟨"result-output-file", none, .text⟩]

/-- What the program is asked to do. -/
inductive Command where
  | schema (typeName : Option String)
  | plan (typeName desired : String) (state : Option String)
  | apply (typeName desired state : String)
  | read (state : String)
  | takeOver (typeName id state : String)
  | delete (state : String)
  | securityGroups (query : SecurityGroups.Query)
  | regions
deriving DecidableEq, Repr

/-- A command with the options that every command has. -/
structure Invocation where
  region : Option String := none
  endpoint : Option String := none
  config : Option String := none
  verbosity : Verbosity := .off
  command : Command
deriving DecidableEq, Repr

/-! ## Reading words -/

/-- Why the reading of words ends before a command is known. -/
inductive Stop where
  | help
  | version
  | refused
deriving DecidableEq, Repr

/-- Where words stand: before the name of a command, or behind it. -/
inductive Position where
  | front
  | behind (v : Verb)
deriving DecidableEq, Repr

/-- The options that may stand somewhere. -/
def Position.parameters : Position → List Parameter
  | .front => sharedParameters
  | .behind v => v.parameters ++ sharedParameters

/-- Whether a command has one word more that is no option. -/
def Verb.takesWord (v : Verb) : Bool := v == .schema

/-- What was read: the values of options by their names, and a word that is no option. -/
structure Given where
  values : List (String × String) := []
  word : Option String := none
deriving DecidableEq, Repr

namespace Given

/-- The value of an option. -/
def get? (g : Given) (p : Parameter) : Option String := g.values.lookup p.name

/-- Takes the value of an option; it has the form of the option, and is the only one. -/
def take (g : Given) (p : Parameter) (value : String) : Except Stop Given :=
  if p.form.accepts value && (g.get? p).isNone then .ok { g with values := (p.name, value) :: g.values }
  else .error .refused

/-- Takes a word that is no option. -/
def takeWord (v : Verb) (g : Given) (word : String) : Except Stop Given :=
  if v.takesWord && g.word.isNone then .ok { g with word := some word } else .error .refused

theorem get?_take {g g' : Given} {p : Parameter} {value : String} (h : g.take p value = .ok g') :
    g'.get? p = some value := by
  unfold take at h
  split at h
  · injection h with h
    subst h
    simp [get?]
  · simp at h

theorem take_of_taken {g g' : Given} {p : Parameter} {value : String} (h : g.take p value = .ok g') (other : String) :
    g'.take p other = .error .refused := by
  simp [take, get?_take h]

end Given

/-- Whether a word can be the value of the option before it. -/
def canBeValue (word : String) : Bool := word == "-" || word.toList.head? != some '-'

/-- A text without the equals sign at its front. -/
def withoutEquals : List Char → List Char
  | '=' :: rest => rest
  | s => s

/-- The part of an option in a word: the option, and the value if it stands in the same word. -/
def optionIn (place : Position) (word : List Char) : Except Stop (Parameter × Option String) :=
  match word with
  | '-' :: '-' :: s =>
    let name := String.ofList (s.takeWhile (· != '='))
    match place.parameters.find? (·.name == name), s.dropWhile (· != '=') with
    | some p, [] => .ok (p, none)
    | some p, _ :: value => .ok (p, some (String.ofList value))
    | none, [] =>
      .error (if name = "help" then .help else if name = "version" ∧ place = .front then .version else .refused)
    | none, _ => .error .refused
  | '-' :: c :: s =>
    match place.parameters.find? (·.letter == some c) with
    | some p => .ok (p, if s = [] then none else some (String.ofList (withoutEquals s)))
    | none => .error (if c = 'h' then .help else if c = 'V' ∧ place = .front then .version else .refused)
  | _ => .error .refused

/-- Reads words; before the name of a command the first word that is no option ends the reading. -/
def scan (place : Position) (g : Given) : List String → Except Stop (Given × List String)
  | [] => .ok (g, [])
  | word :: rest =>
    if word = "--" then
      match place with
      | .front => .error .refused
      | .behind v => (rest.foldlM (Given.takeWord v) g).map (·, [])
    else if canBeValue word then
      match place with
      | .front => .ok (g, word :: rest)
      | .behind v => (g.takeWord v word).bind fun g => scan place g rest
    else
      match optionIn place word.toList with
      | .error stop => .error stop
      | .ok (p, some value) => (g.take p value).bind fun g => scan place g rest
      | .ok (p, none) =>
        match rest with
        | [] => .error .refused
        | value :: rest =>
          if canBeValue value then (g.take p value).bind fun g => scan place g rest else .error .refused

/-! ## Commands from what was read -/

/-- A query, if it asks for a group or for groups with some property, but not for both. -/
def query? (g : Given) : Option SecurityGroups.Query :=
  let value (name : String) : Option String := g.values.lookup name
  if (value "security-group-id").isSome ∧ ((value "name").isSome ∨ (value "project-id").isSome) then none
  else some ⟨value "security-group-id", value "name", (value "project-id").bind integer?, value "result-output-file"⟩

/-- The command with what was read behind its name, if nothing is missing. -/
def Verb.command? (g : Given) : Verb → Option Command
  | .schema => some (.schema g.word)
  | .plan => do some (.plan (← g.get? typeParameter) (← g.get? desiredParameter) (g.get? stateParameter))
  | .apply => do some (.apply (← g.get? typeParameter) (← g.get? desiredParameter) (← g.get? stateParameter))
  | .read => (g.get? stateParameter).map .read
  | .takeOver => do some (.takeOver (← g.get? typeParameter) (← g.values.lookup "id") (← g.get? stateParameter))
  | .delete => (g.get? stateParameter).map .delete
  | .securityGroups => (query? g).map .securityGroups
  | .regions => some .regions

/-- A command with what was read before and behind its name. -/
def invocation (front behind : Given) (command : Command) : Invocation :=
  let value (name : String) : Option String := (behind.values.lookup name).or (front.values.lookup name)
  { region := value "region"
    endpoint := value "endpoint"
    config := value "config"
    verbosity := ((value "log-level").bind Verbosity.ofName?).getD .off
    command := command }

/-- Whether help can be asked for with these words. -/
def isHelpTopic : List String → Bool
  | [] => true
  | [word] => word == "help" || (Verb.ofName? word).isSome
  | _ => false

/-- What the words of a command line ask for. -/
def Invocation.ofWords (words : List String) : Except Stop Invocation :=
  match scan .front {} words with
  | .error stop => .error stop
  | .ok (_, []) => .error .refused
  | .ok (front, word :: rest) =>
    match Verb.ofName? word with
    | none => .error (if word = "help" ∧ isHelpTopic rest then .help else .refused)
    | some v =>
      match scan (.behind v) {} rest with
      | .error stop => .error stop
      | .ok (behind, _) =>
        match v.command? behind with
        | none => .error .refused
        | some command => .ok (invocation front behind command)

end Provision.Cli
