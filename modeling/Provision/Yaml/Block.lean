import Provision.Yaml.Flow

/-!
# Documents by indentation

A document is read line by line: lines that begin with a dash are the items of a list, lines with a key and a colon
are the members of an object, and what stands deeper than a line belongs to it. Other values are plain or quoted texts,
lists and objects between brackets, and texts of whole lines. Anchors, tags, directives and keys that are no texts are
not read, and a text with more than one document is refused.
-/

namespace Provision.Yaml

/-! ## Lines -/

/-- A line: the number of blanks at its front, and what follows them. -/
structure Line where
  indent : Nat
  text : List Char
deriving DecidableEq, Repr, Inhabited

namespace Line

/-- The line of a text. -/
def ofText (s : List Char) : Line := ⟨(s.takeWhile (· == ' ')).length, s.dropWhile (· == ' ')⟩

/-- The text of a line. -/
def toText (l : Line) : List Char := List.replicate l.indent ' ' ++ l.text

theorem toText_ofText (s : List Char) : (ofText s).toText = s := by
  have h : s.takeWhile (· == ' ') = List.replicate (s.takeWhile (· == ' ')).length ' ' :=
    List.eq_replicate_iff.2 ⟨rfl, fun c hc => by simpa using List.all_eq_true.1 List.all_takeWhile c hc⟩
  rw [ofText, toText, ← h, List.takeWhile_append_dropWhile]

/-- Whether a line says nothing: it holds blanks and a comment at most. -/
def isEmpty (l : Line) : Bool := (l.text.dropWhile isSpace).head?.all (· == '#')

/-- Whether a line begins with three signs that stand alone. -/
def isMarker (l : Line) (sign : Char) : Bool :=
  l.indent == 0 && l.text.take 3 == [sign, sign, sign] && (l.text.drop 3).head?.all isSpace

end Line

/-- The lines of a text; all but the last end in a line break. -/
def linesOf (s : List Char) : List Line := (Text.Segments.split '\n' s).map Line.ofText

/-- The text of lines. -/
def textOf (ls : List Line) : List Char := ['\n'].intercalate (ls.map Line.toText)

/-- Drops the lines at the front that say nothing. -/
def dropEmpty (ls : List Line) : List Line := ls.dropWhile Line.isEmpty

/-! ## Texts of whole lines -/

/-- What happens to the line breaks at the end of a text. -/
inductive Chomping where
  /-- One stays. -/
  | clip
  /-- None stays. -/
  | strip
  /-- All stay. -/
  | keep
deriving DecidableEq, Repr

/-- The signs behind the bar or the angle: the chomping, and the depth of the text. -/
def header? : List Char → Option (Chomping × Option Nat)
  | '+' :: rest => (depth? rest).map (.keep, ·)
  | '-' :: rest => (depth? rest).map (.strip, ·)
  | c :: '+' :: rest => (digit? c rest).map (.keep, ·)
  | c :: '-' :: rest => (digit? c rest).map (.strip, ·)
  | rest => (depth? rest).map (.clip, ·)
where
  /-- A digit that is not zero, before the end of the line. -/
  digit? (c : Char) (rest : List Char) : Option (Option Nat) :=
    if c.isDigit ∧ c ≠ '0' ∧ isEnd rest then some (some (c.toNat - 48)) else none
  /-- Such a digit or nothing, before the end of the line. -/
  depth? : List Char → Option (Option Nat)
    | [] => some none
    | c :: rest => if isEnd (c :: rest) then some none else digit? c rest
  /-- Whether only blanks and a comment behind them follow. -/
  isEnd (s : List Char) : Bool :=
    s.isEmpty || (s.head?.any isSpace && (Line.mk 0 s).isEmpty)

/-- Whether a line belongs to a text of a depth. -/
def isWithin (depth : Nat) (l : Line) : Bool := depth ≤ l.indent || l.text.isEmpty

/-- A line without the blanks of the depth. -/
def unindented (depth : Nat) (l : Line) : List Char := List.replicate (l.indent - depth) ' ' ++ l.text

/-- The depth of the first line that is not empty, or of an empty line before it that is deeper. -/
def depthOf (ls : List Line) : Nat :=
  let blank := ls.takeWhile (·.text.isEmpty)
  (blank ++ (ls.drop blank.length).take 1).foldl (fun n l => max n l.indent) 0

/-- What stands between two lines with a number of empty lines between them. A folded line break is a blank, unless
one of the lines begins with a blank. -/
def between (folded : Bool) (previous : Option (List Char)) (empty : Nat) (next : List Char) : List Char :=
  match previous with
  | none => List.replicate empty '\n'
  | some line =>
    if folded ∧ !line.head?.any isSpace ∧ !next.head?.any isSpace then
      if empty = 0 then [' '] else List.replicate empty '\n'
    else List.replicate (empty + 1) '\n'

/-- Lines put together, without the line breaks at the end. -/
def assembled (folded : Bool) : Option (List Char) → Nat → List (List Char) → List Char
  | _, _, [] => []
  | previous, empty, [] :: rest => assembled folded previous (empty + 1) rest
  | previous, empty, line :: rest => between folded previous empty line ++ line ++ assembled folded (some line) 0 rest

/-- The number of line breaks at the end of lines, of which the last has one or not. -/
def breaksAtEnd (lines : List (List Char)) (closed : Bool) : Nat :=
  let empty := (lines.reverse.takeWhile List.isEmpty).length
  let all := if empty < lines.length then empty + 1 else empty
  if closed then all else all - 1

/-- The text of lines. -/
def wholeText (folded : Bool) (chomping : Chomping) (lines : List (List Char)) (closed : Bool) : String :=
  let body := assembled folded none 0 lines
  let breaks := match chomping with
    | .strip => 0
    | .clip => if body = [] then 0 else min 1 (breaksAtEnd lines closed)
    | .keep => breaksAtEnd lines closed
  String.ofList (body ++ List.replicate breaks '\n')

/-- The text of the lines below signs, which are at least as deep as `least`, and the lines after it. -/
def block? (folded : Bool) (signs : List Char) (least : Nat) (ls : List Line) : Option (String × List Line) :=
  (header? signs).map fun (chomping, depth) =>
    let depth := match depth with
      | some n => least - 1 + n
      | none => max (depthOf ls) (max least 1)
    let inside := ls.takeWhile (isWithin depth)
    let rest := ls.drop inside.length
    (wholeText folded chomping (inside.map (unindented depth)) !rest.isEmpty, rest)

/-! ## Plain texts -/

/-- Whether nothing, or a blank, comes next. -/
def isGapNext (s : List Char) : Bool := s.head?.all isSpace

/-- A plain text up to a colon or a comment, and what stopped it. -/
def plainLine : List Char → List Char × List Char
  | [] => ([], [])
  | c :: rest =>
    if c = ':' ∧ isGapNext rest then ([], c :: rest)
    else if isSpace c ∧ rest.head? = some '#' then ([], c :: rest)
    else (c :: (plainLine rest).1, (plainLine rest).2)

/-- Whether a plain text can begin here. -/
def beginsPlain : List Char → Bool
  | [] => false
  | c :: rest => !isIndicator c && !isSpace c && !(['-', '?', ':'].contains c && isGapNext rest)

/-- The parts of a plain text on lines that are at least as deep as `least`, and the lines after it. A comment ends the
text; a colon in it is refused. -/
def plainLines (least : Nat) : List Line → Option (List Part × List Line)
  | [] => some ([], [])
  | l :: rest =>
    if l.text.all isSpace then (plainLines least rest).map fun p => (.lineBreak :: p.1, p.2)
    else if l.indent < least ∨ l.text.head? = some '#' then some ([], l :: rest)
    else
      match plainLine l.text with
      | (s, []) => (plainLines least rest).map fun p => (s.map partOf ++ .lineBreak :: p.1, p.2)
      | (_, ':' :: _) => none
      | (s, _) => some (s.map partOf, rest)

/-- A key in front of a colon, and what follows the colon. -/
def key? (s : List Char) : Option (String × List Char) :=
  match quoted? s with
  | some (key, rest) => behindColon key (rest.dropWhile isSpace)
  | none =>
    if beginsPlain s then behindColon (String.ofList (Text.dropEnd isSpace (plainLine s).1)) (plainLine s).2 else none
where
  /-- What follows a colon. -/
  behindColon (key : String) : List Char → Option (String × List Char)
    | ':' :: rest => if isGapNext rest then some (key, rest) else none
    | _ => none

/-! ## Values -/

/-- The lines after a value that is closed by a sign; its line holds nothing else. -/
def afterClosed (s : List Char) : Option (List Line) :=
  match s.dropWhile isSpace with
  | [] => some []
  | '\n' :: rest => some (linesOf rest)
  | '#' :: rest => some ((linesOf rest).drop 1)
  | _ => none

/-- A value that is neither a list nor an object by indentation, and the lines after it. -/
def scalar? (least : Nat) (text : List Char) (rest : List Line) : Option (Json × List Line) :=
  let whole := textOf (⟨0, text⟩ :: rest)
  match text with
  | '|' :: signs => (block? false signs least rest).map fun p => (.string p.1, p.2)
  | '>' :: signs => (block? true signs least rest).map fun p => (.string p.1, p.2)
  | '[' :: _ | '\x7b' :: _ => (flowValue (whole.length + 1) whole).bind fun p => (afterClosed p.2).map (p.1, ·)
  | '"' :: _ | '\'' :: _ => (quoted? whole).bind fun p => (afterClosed p.2).map (.string p.1, ·)
  | _ =>
    if beginsPlain text then
      (plainLines least (⟨least, text⟩ :: rest)).bind fun p =>
        (plain? (fold (dropEndBlanks p.1))).map (·, p.2)
    else none

/-- Whether a line is an item of a list. -/
def isItem (l : Line) : Bool := l.text.head? == some '-' && isGapNext (l.text.drop 1)

/-- An item without its dash, as a line of its own. -/
def behindDash (l : Line) : Line :=
  let inner := Line.ofText (l.text.drop 1)
  ⟨l.indent + 1 + inner.indent, inner.text⟩

mutual

/-- The value on lines that are at least as deep as `least`, and the lines after it; `fuel` bounds the depth. -/
def node : Nat → Nat → List Line → Option (Json × List Line)
  | 0, _, _ => none
  | fuel + 1, least, ls =>
    match dropEmpty ls with
    | [] => some (.null, [])
    | l :: rest =>
      if l.indent < least then some (.null, l :: rest)
      else if isItem l then (items fuel l.indent (l :: rest)).map fun p => (.array p.1, p.2)
      else if (key? l.text).isSome then (members fuel l.indent (l :: rest)).map fun p => (Json.ofMembers p.1, p.2)
      else scalar? least l.text rest

/-- The items at an indentation, and the lines after them. -/
def items : Nat → Nat → List Line → Option (List Json × List Line)
  | 0, _, _ => none
  | fuel + 1, indent, ls =>
    match dropEmpty ls with
    | [] => some ([], [])
    | l :: rest =>
      if l.indent < indent ∨ (l.indent = indent ∧ !isItem l) then some ([], l :: rest)
      else if indent < l.indent then none
      else do
        let (v, rest) ← node fuel (indent + 1) (behindDash l :: rest)
        let (vs, rest) ← items fuel indent rest
        some (v :: vs, rest)

/-- The members at an indentation, and the lines after them. The items of a member need not be deeper than it. -/
def members : Nat → Nat → List Line → Option (List (String × Json) × List Line)
  | 0, _, _ => none
  | fuel + 1, indent, ls =>
    match dropEmpty ls with
    | [] => some ([], [])
    | l :: rest =>
      if l.indent < indent then some ([], l :: rest)
      else if indent < l.indent then none
      else do
        let (key, text) ← key? l.text
        let (v, rest) ←
          if (Line.mk 0 text).isEmpty then
            match dropEmpty rest with
            | [] => some (Json.null, [])
            | m :: rest =>
              if m.indent = indent ∧ isItem m then
                (items fuel indent (m :: rest)).map fun p => (Json.array p.1, p.2)
              else node fuel (indent + 1) (m :: rest)
          else scalar? (indent + 1) (text.dropWhile isSpace) rest
        let (vs, rest) ← members fuel indent rest
        some ((key, v) :: vs, rest)

end

/-! ## Documents -/

/-- A text whose lines end in one way. -/
def withPlainBreaks : List Char → List Char
  | [] => []
  | '\r' :: '\n' :: rest => '\n' :: withPlainBreaks rest
  | '\r' :: rest => '\n' :: withPlainBreaks rest
  | c :: rest => c :: withPlainBreaks rest

/-- A text without the mark of its byte order. -/
def withoutMark : List Char → List Char
  | '\ufeff' :: rest => rest
  | s => s

/-- The lines of a document, and those from the marker on that ends it. -/
def untilMarker (ls : List Line) : List Line × List Line :=
  let rest := ls.dropWhile fun l => !l.isMarker '-' && !l.isMarker '.'
  let body := ls.takeWhile fun l => !l.isMarker '-' && !l.isMarker '.'
  (if rest.isEmpty then body else body ++ [⟨0, []⟩], rest)

/-- Whether lines after a document hold nothing but markers that end it. -/
def isOver : List Line → Bool
  | [] => true
  | l :: rest => (l.isEmpty || (l.isMarker '.' && (Line.mk 0 (l.text.drop 3)).isEmpty)) && isOver rest

/-- The value of lines that hold nothing else. -/
def document? (ls : List Line) : Option Json := do
  let (v, rest) ← node (2 * (textOf ls).length + 4) 0 ls
  if (dropEmpty rest).isEmpty then some v else none

/-- The value behind the marker that begins a document, or on the lines below it. -/
def markedDocument? (l : Line) (ls : List Line) : Option Json :=
  if (Line.mk 0 (l.text.drop 3)).isEmpty then document? ls
  else do
    let (v, rest) ← scalar? 0 ((l.text.drop 3).dropWhile isSpace) ls
    if (dropEmpty rest).isEmpty then some v else none

/-- The value that a text writes. -/
def parse? (text : String) : Option Json :=
  let ls := dropEmpty (linesOf (withPlainBreaks (withoutMark text.toList)))
  match ls with
  | [] => some .null
  | l :: rest =>
    if l.isMarker '-' then
      let p := untilMarker rest
      if isOver p.2 then markedDocument? l p.1 else none
    else if l.isMarker '.' then none
    else
      let p := untilMarker ls
      if isOver p.2 then document? p.1 else none

end Provision.Yaml
