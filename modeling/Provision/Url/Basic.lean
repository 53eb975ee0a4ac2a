import Provision.Url.Host

/-!
# URLs

The parts of a URL that a request needs: scheme, host, port and path. Blanks around the text and line breaks in it
are dropped. Schemes of the web have a host, and their paths may also be written with backslashes; for another scheme
two slashes announce a host, and without them there is none.
-/

namespace Provision

/-- A URL; the port is left out if it is the usual one of the scheme. -/
structure Url where
  scheme : String
  host : Option String
  port : Option Nat
  path : String
deriving DecidableEq, Repr

namespace Url

open Text

/-- How a scheme treats the rest of a URL. -/
inductive SchemeKind where
  /-- A scheme of the web, with its usual port. -/
  | web (port : Nat)
  | file
  | other
deriving DecidableEq, Repr

/-- The kind of a scheme. -/
def schemeKind : List Char → SchemeKind
  | ['h', 't', 't', 'p'] | ['w', 's'] => .web 80
  | ['h', 't', 't', 'p', 's'] | ['w', 's', 's'] => .web 443
  | ['f', 't', 'p'] => .web 21
  | ['f', 'i', 'l', 'e'] => .file
  | _ => .other

/-- Drops the blanks and control characters at both ends, and every tab and line break. -/
def clean (s : List Char) : List Char :=
  let blank (c : Char) : Bool := c.toNat ≤ 0x20
  ((s.dropWhile blank).reverse.dropWhile blank).reverse.filter fun c => !(c == '\t' || c == '\n' || c == '\r')

/-- Whether a character can stand in a scheme. -/
def isSchemeChar (c : Char) : Bool := c.isAlphanum || c == '+' || c == '-' || c == '.'

/-- The scheme in lower-case, and what follows its colon. -/
def scheme? (s : List Char) : Option (List Char × List Char) :=
  match s.span isSchemeChar with
  | (c :: name, ':' :: rest) => if c.isAlpha then some ((c :: name).map Char.toLower, rest) else none
  | _ => none

/-- Whether a character separates the parts of a path. -/
def isSlash (backslash : Bool) (c : Char) : Bool := c == '/' || (backslash && c == '\\')

/-- Whether a character ends the authority of a URL. -/
def endsAuthority (backslash : Bool) (c : Char) : Bool := isSlash backslash c || c == '?' || c == '#'

/-! ## Authority -/

/-- The part before the last `@`, if there is one, and the part after it. -/
def userAndHost (s : List Char) : Option (List Char) × List Char :=
  if s.contains '@' then
    (some ((s.reverse.dropWhile (· != '@')).drop 1).reverse, (s.reverse.takeWhile (· != '@')).reverse)
  else (none, s)

/-- Cuts a host and a port at the first colon outside of brackets. -/
def hostAndPort (bracketed : Bool) : List Char → List Char × Option (List Char)
  | [] => ([], none)
  | c :: rest =>
    if c = ':' ∧ !bracketed then ([], some rest)
    else
      let inside := if c = '[' then true else if c = ']' then false else bracketed
      (c :: (hostAndPort inside rest).1, (hostAndPort inside rest).2)

/-- A port: decimal digits of a value below 65536, or none at all. -/
def portNumber (s : List Char) : Except Fault (Option Nat) :=
  if s = [] then .ok none
  else if s.all Char.isDigit then
    match digits? 10 s with
    | some n => if n < 65536 then .ok (some n) else .error .badPort
    | none => .error .badPort
  else .error .badPort

/-- The host and the port of an authority. -/
def authority (kind : SchemeKind) (s : List Char) : Except Fault (Option String × Option Nat) := do
  let (user, server) := userAndHost s
  let (name, rest) := hostAndPort false server
  if name = [] ∧ (kind ≠ .other ∨ rest.isSome ∨ user.isSome) then .error .emptyHost
  else
    let host ← if kind = .other then opaqueHost name else computer name
    let port ← portNumber (rest.getD [])
    let usual := match kind with
      | .web n => some n
      | _ => none
    .ok (if host = [] then none else some (String.ofList host), if port = usual then none else port)

/-- The host of a file; the own computer is none. -/
def fileHost (s : List Char) : Except Fault (Option String) := do
  if s = [] ∨ s.length = 2 ∧ (s.head?.any Char.isAlpha) ∧ (s[1]? = some ':' ∨ s[1]? = some '|') then .ok none
  else
    let h ← computer s
    .ok (if String.ofList h = "localhost" then none else some (String.ofList h))

/-! ## Path -/

/-- Whether a byte stands for itself in a path. -/
def isPathByte (b : UInt8) : Bool :=
  0x20 < b && b < 0x7F && !(['"', '#', '<', '>', '?', '`', '\x7b', '\x7d'].any (·.toUInt8 == b))

/-- A part of a path, in which bytes that cannot stand there are escaped. -/
def pathPart (s : List Char) : List Char :=
  (String.ofList s).toUTF8.toList.flatMap fun b =>
    if isPathByte b then [Char.ofNat b.toNat]
    else
      let digit (n : Nat) : Char := Char.ofNat (if n < 10 then '0'.toNat + n else 'A'.toNat + (n - 10))
      ['%', digit (b.toNat / 16), digit (b.toNat % 16)]

/-- How many dots a part consists of, up to two; a dot may be escaped. -/
def dots (s : List Char) : Option Nat :=
  match s.map Char.toLower with
  | ['.'] | ['%', '2', 'e'] => some 1
  | ['.', '.'] | ['.', '%', '2', 'e'] | ['%', '2', 'e', '.'] | ['%', '2', 'e', '%', '2', 'e'] => some 2
  | _ => none

/-- Resolves the parts of a path: one dot is dropped, and two dots drop the part before; `done` is reversed. -/
def resolve : List (List Char) → List (List Char) → List (List Char)
  | done, [] => done.reverse
  | done, part :: rest =>
    let ending := if rest = [] then [[]] else []
    match dots part with
    | some 1 => resolve (ending ++ done) rest
    | some _ => resolve (ending ++ done.drop 1) rest
    | none => resolve (pathPart part :: done) rest

/-- The path of a URL with a host. -/
def pathText (backslash : Bool) (s : List Char) : String :=
  let written := s.takeWhile fun c => !(c == '?' || c == '#')
  let slashes := written.map fun c => if isSlash backslash c then '/' else c
  let parts := Segments.split '/' (if slashes.head? = some '/' then slashes.drop 1 else slashes)
  String.ofList ('/' :: Segments.join '/' (resolve [] parts))

/-! ## Reading -/

/-- Reads a URL. -/
def parse (text : String) : Except Fault Url := do
  let s := clean text.toList
  match scheme? s with
  | none => .error .relative
  | some (scheme, rest) =>
    let kind := schemeKind scheme
    let name := String.ofList scheme
    match kind with
    | .web _ =>
      let (before, after) := (rest.dropWhile (isSlash true)).span fun c => !endsAuthority true c
      let (host, port) ← authority kind before
      .ok ⟨name, host, port, pathText true after⟩
    | .file =>
      match rest with
      | a :: b :: rest' =>
        if isSlash true a && isSlash true b then
          let (before, after) := rest'.span fun c => !endsAuthority true c
          let host ← fileHost before
          .ok ⟨name, host, none, pathText true after⟩
        else .ok ⟨name, none, none, pathText true rest⟩
      | _ => .ok ⟨name, none, none, pathText true rest⟩
    | .other =>
      match rest with
      | '/' :: '/' :: rest' =>
        let (before, after) := rest'.span fun c => !endsAuthority false c
        let (host, port) ← authority kind before
        .ok ⟨name, host, port, pathText false after⟩
      | _ => .ok ⟨name, none, none, String.ofList rest⟩

/-- A way to read texts as URLs. Clients and settings read them by `parse`; what is proved of them holds of any way. -/
abbrev Reader := String → Except Fault Url

end Url

end Provision
