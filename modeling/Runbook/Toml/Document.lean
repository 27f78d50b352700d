import Runbook.Toml.Node
import Runbook.Toml.Quotation

/-!
# TOML documents

A document is a sequence of statements, one to a line: headers of tables, headers of array elements,
and assignments. `statements?` reads them, `buildFrom` turns them into a table, and `parse?` does
both. A text that is not a document has no table; what is wrong with it is not told.

Arrays and inline tables nest at most `depthLimit` deep, and a dotted key has at most as many parts.
Arrays and inline tables may go over several lines, with comments, and with a comma after the last
element.
-/

namespace Runbook.Toml

/-- How deep arrays and inline tables may nest, and how many parts a dotted key may have. -/
def depthLimit : Nat := 80

/-! ## Space and comments -/

/-- A text without the spaces and tabs at its start. -/
def skipSpaces (text : Text) : Text := text.dropWhile fun c => c == ' ' || c == '\t'

/-- A text without the spaces, line ends and comments at its start. -/
def skipFiller : Bool → Text → Text
  | false, ' ' :: rest => skipFiller false rest
  | false, '\t' :: rest => skipFiller false rest
  | false, '#' :: rest => skipFiller true rest
  | _, '\n' :: rest => skipFiller false rest
  | _, '\r' :: '\n' :: rest => skipFiller false rest
  | true, c :: rest => if isPlainChar c then skipFiller true rest else c :: rest
  | _, text => text

/-- What follows the line that a statement ends, if nothing but space and a comment is left of it.
-/
def endLine? (text : Text) : Option Text :=
  let text := skipSpaces text
  let text := match text with
    | '#' :: rest => rest.dropWhile isPlainChar
    | _ => text
  match text with
  | [] => some []
  | '\n' :: rest => some rest
  | '\r' :: '\n' :: rest => some rest
  | _ => none

/-! ## Keys -/

/-- Whether `c` may stand in a key without quotes. -/
def isBareChar (c : Char) : Bool := c.isAlphanum || c == '_' || c == '-'

/-- Reads a key without dots. -/
def simpleKey? : Text → Option (Text × Text)
  | '"' :: rest => basicString rest
  | '\'' :: rest => literalString rest
  | text =>
    let key := text.takeWhile isBareChar
    if key.isEmpty then none else some (key, text.dropWhile isBareChar)

/-- Reads a dotted key, of at most the given number of parts, and skips the spaces after it. -/
def keyPath? : Nat → Text → Option (List Text × Text)
  | 0, _ => none
  | parts + 1, text => do
    let (key, rest) ← simpleKey? text
    match skipSpaces rest with
    | '.' :: rest =>
      let (path, rest) ← keyPath? parts (skipSpaces rest)
      return (key :: path, rest)
    | rest => return ([key], rest)

/-- Reads a dotted key and skips the spaces around it. -/
def key? (text : Text) : Option (List Text × Text) := keyPath? depthLimit (skipSpaces text)

/-! ## Values -/

/-- A reader of something at the start of a text, which gives what it read and what follows. -/
abbrev Reader (α : Type) := Text → Option (α × Text)

/-- Reads a quoted string. -/
def string? : Reader Text
  | '"' :: '"' :: '"' :: rest => multilineBasic false (dropLineEnd rest)
  | '"' :: rest => basicString rest
  | '\'' :: '\'' :: '\'' :: rest => multilineLiteral (dropLineEnd rest)
  | '\'' :: rest => literalString rest
  | _ => none

/-- Reads elements up to the character `close`, with a comma between them and possibly after the
last. There are at most as many as the given number. -/
def items? {α : Type} (close : Char) (item : Reader α) : Nat → Reader (List α)
  | 0, _ => none
  | count + 1, text =>
    let text := skipFiller false text
    if text.head? = some close then some ([], text.tail)
    else do
      let (first, rest) ← item text
      let rest := skipFiller false rest
      match rest with
      | ',' :: rest =>
        let (others, rest) ← items? close item count rest
        return (first :: others, rest)
      | c :: rest => if c = close then return ([first], rest) else none
      | [] => none

/-- Reads a dotted key, an equals sign and a value, with what `skip` passes over between them. -/
def assignment? (skip : Text → Text) (value : Reader Value) : Reader (List Text × Value) :=
  fun text => do
    let (path, rest) ← key? text
    let rest ← expect? '=' (skip rest)
    let (value, rest) ← value (skip rest)
    return ((path, value), rest)

/-- The table that the assignments between braces make. -/
def inlineTable? (assignments : List (List Text × Value)) : Option Table :=
  (assignments.foldlM (fun nodes (path, value) => Nodes.assign value path nodes) []).map
    finishEntries

/-- Reads a value in which arrays and inline tables nest at most as deep as given. -/
def value? : Nat → Reader Value
  | depth, text =>
    match text, depth with
    | '"' :: _, _ | '\'' :: _, _ => (string? text).map fun (s, rest) => (.string s, rest)
    | '[' :: rest, depth + 1 =>
      (items? ']' (value? depth) (rest.length + 1) rest).map fun (vs, rest) => (.array vs, rest)
    | '\x7b' :: rest, depth + 1 => do
      let (assignments, rest) ←
        items? '\x7d' (assignment? (skipFiller false) (value? depth)) (rest.length + 1) rest
      return (.table (← inlineTable? assignments), rest)
    | _, _ => scalar? text

/-! ## Statements -/

/-- One statement of a document. -/
inductive Statement where
  | table (path : List Text)
  | element (path : List Text)
  | assign (path : List Text) (value : Value)
  deriving Repr

/-- Reads the statement at the start of a line. -/
def statement? : Reader Statement
  | '[' :: '[' :: rest => do
    let (path, rest) ← key? rest
    let rest ← expect? ']' (← expect? ']' rest)
    return (.element path, rest)
  | '[' :: rest => do
    let (path, rest) ← key? rest
    let rest ← expect? ']' rest
    return (.table path, rest)
  | text => do
    let ((path, value), rest) ← assignment? skipSpaces (value? depthLimit) text
    return (.assign path value, rest)

/-- Reads the statements of a document that has at most the given number of lines. -/
def statementsFrom? : Nat → Text → Option (List Statement)
  | 0, _ => none
  | lines + 1, text =>
    match endLine? text with
    | some [] => some []
    | some rest => statementsFrom? lines rest
    | none => do
      let (statement, rest) ← statement? (skipSpaces text)
      match ← endLine? rest with
      | [] => return [statement]
      | rest => return statement :: (← statementsFrom? lines rest)

/-- Reads the statements of a document. -/
def statements? (text : Text) : Option (List Statement) := statementsFrom? (text.length + 1) text

/-! ## The table of a document -/

/-- What the statements of a document say so far: its tables, and the path of the table that
assignments now go to. -/
structure Progress where
  nodes : Nodes
  current : List Text

/-- Takes in one statement. -/
def Progress.add (progress : Progress) : Statement → Option Progress
  | .assign path value =>
    (Nodes.descend (Nodes.assign value path) progress.current progress.nodes).map
      fun nodes => { progress with nodes }
  | .table path => do
    let nodes ← Nodes.descend (Nodes.openTable (← path.getLast?)) path.dropLast progress.nodes
    return ⟨nodes, path⟩
  | .element path => do
    let nodes ← Nodes.descend (Nodes.openElement (← path.getLast?)) path.dropLast progress.nodes
    return ⟨nodes, path⟩

/-- The table that statements make, unless they define something twice. -/
def build? (statements : List Statement) : Option Table :=
  (statements.foldlM Progress.add ⟨[], []⟩).map fun progress => finishEntries progress.nodes

/-- The table of a document. A mark of the byte order may stand at its very start. -/
def parse? (text : Text) : Option Table := do
  let text := if text.head? = some '\uFEFF' then text.tail else text
  build? (← statements? text)

end Runbook.Toml
