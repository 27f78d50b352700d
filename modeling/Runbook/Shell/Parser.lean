import Runbook.Shell.Script
import Runbook.Text.Numeral

/-!
# Reading scripts

The shell reads a script one complete command at a time, and runs each before it reads on:
`nextCommand` takes the next one from the start of a text. Reading is by recursive descent without
separate tokens, since what a character means depends on the quotes and brackets around it.

Every reader of a part that may contain itself takes a bound on how deep it may still go. A part is
never nested deeper than its text is long, so `nextCommand` takes the bound from the text.
-/

namespace Runbook.Shell

/-- What ends a document. -/
structure Mark where
  /-- The line that ends it. -/
  text : Text
  /-- Whether the document stands for itself, since a part of the mark was quoted. -/
  isQuoted : Bool
  /-- Whether tabs at the starts of lines are left out. -/
  dropsTabs : Bool

/-- The text that is still to be read. -/
structure Input where
  rest : Text
  /-- The line that it starts on. -/
  line : Nat
  /-- The names that stand for other text where a command begins. -/
  aliases : List (Text × Text)
  /-- The aliases whose texts have been put in their places, each with the length of the text behind
  that. -/
  opened : List (Text × Nat)
  /-- The documents that begin behind the end of the current line, by their numbers. -/
  awaited : List (Nat × Mark)
  /-- The documents that have been read. -/
  documents : List (Nat × Word)
  /-- The number of the next document. -/
  nextDocument : Nat
  /-- What ends the document that is being read. -/
  ending : Option Mark

/-- A text of its own. -/
def Input.ofText (text : Text) : Input := ⟨text, 1, [], [], [], [], 0, none⟩

/-- The input behind a line feed. -/
def Input.nextLine (input : Input) (rest : Text) : Input :=
  { input with rest, line := input.line + 1 }

/-- What is wrong with a script. -/
inductive Problem where
  /-- Something stands where it does not belong. -/
  | unexpected (what : Text) (expecting : Option Text)
  | unterminatedQuote
  | unterminatedBackquote
  | badLoopVariable
  | badFunctionName
  | missingBrace
  | missingParentheses
  | tooDeep

/-- What is wrong, in words. -/
def Problem.message : Problem → Text
  | .unexpected what none => what ++ " unexpected"
  | .unexpected what (some wanted) => what ++ " unexpected (expecting " ++ wanted ++ ")"
  | .unterminatedQuote => "Unterminated quoted string"
  | .unterminatedBackquote => "EOF in backquote substitution"
  | .badLoopVariable => "Bad for loop variable"
  | .badFunctionName => "Bad function name"
  | .missingBrace => "Missing '\x7d'"
  | .missingParentheses => "Missing '))'"
  | .tooDeep => "Nesting too deep"

/-- A problem with the line on which it was met. -/
structure SyntaxError where
  line : Nat
  problem : Problem

/-- A reader of scripts. -/
abbrev Parser := StateT Input (Except SyntaxError)

/-! ## Characters -/

/-- Stops reading. -/
def fail {α : Type} (problem : Problem) : Parser α := do
  throw ⟨(← get).line, problem⟩

/-- Goes on to the next character. -/
def advance : Parser Unit := modify fun input =>
  match input.rest with
  | [] => input
  | c :: rest => if c = '\n' then input.nextLine rest else { input with rest }

/-- Goes on by `n` characters, none of which ends a line. -/
def skip (n : Nat) : Parser Unit := modify fun input => { input with rest := input.rest.drop n }

/-- Whether `c` is a space or a tab. -/
def isSpace (c : Char) : Bool := c == ' ' || c == '\t'

/-- Whether `c` ends a word that has no quotes. -/
def endsWord (c : Char) : Bool :=
  isSpace c || c == '\n' || c == ';' || c == '&' || c == '|' || c == '<' || c == '>' || c == '(' ||
    c == ')'

/-- Whether a name may begin with `c`. -/
def startsName (c : Char) : Bool := c.isAlpha || c == '_'

/-- Whether `c` may stand in a name. -/
def isNameChar (c : Char) : Bool := c.isAlphanum || c == '_'

/-- Whether `c` is by itself the name of a value that the shell keeps. -/
def isSpecialName (c : Char) : Bool :=
  c == '@' || c == '*' || c == '#' || c == '?' || c == '-' || c == '$' || c == '!'

/-- The text without joined line ends at its start and in the characters from there on that are
`inside`, and how many line ends were joined. -/
def withoutJoints (inside : Char → Bool) : Text → Text × Nat
  | '\\' :: '\n' :: rest =>
    let (rest, joined) := withoutJoints inside rest
    (rest, joined + 1)
  | c :: rest =>
    if inside c then
      let (rest, joined) := withoutJoints inside rest
      (c :: rest, joined)
    else (c :: rest, 0)
  | [] => ([], 0)

/-- The text behind joined line ends, and how many there were. -/
def afterJoints : Text → Text × Nat := withoutJoints fun _ => false

/-- Whether `c` stands for itself in a word, or belongs to a symbol. -/
def isPlainSign (c : Char) : Bool := !((" \t\n'\"$`\\#" : Text).elem c)

/-- The text without joined line ends in the symbol at its start, and how many were joined. -/
def withoutSymbolJoints : Text → Text × Nat
  | [] => ([], 0)
  | c :: rest =>
    if c = '(' || c = ')' then (c :: rest, 0)
    else match c, afterJoints rest with
      | '<', ('<' :: rest, joined) =>
        let (rest, further) := afterJoints rest
        ('<' :: '<' :: rest, joined + further)
      | c, (rest, joined) => (c :: rest, joined)

/-- The text without joined line ends in the word or the symbol at its start, and how many were
joined. The number of a descriptor belongs to the symbol behind it. -/
def withoutTokenJoints : Text → Text × Nat
  | [] => ([], 0)
  | c :: rest =>
    if endsWord c then withoutSymbolJoints (c :: rest)
    else match withoutJoints (fun c => isPlainSign c && !endsWord c) (c :: rest) with
      | (d :: c :: rest, joined) =>
        if d.isDigit && (c = '<' || c = '>') then
          let (symbol, further) := withoutSymbolJoints (c :: rest)
          (d :: symbol, joined + further)
        else (d :: c :: rest, joined)
      | found => found

/-- The text behind spaces, a comment and joined line ends, and how many line ends were joined. -/
def afterBlank : Text → Text × Nat
  | '\\' :: '\n' :: rest =>
    let (rest, joined) := afterBlank rest
    (rest, joined + 1)
  | c :: rest =>
    if isSpace c then afterBlank rest
    else if c = '#' then (rest.dropWhile (· ≠ '\n'), 0)
    else if ((c :: rest).takeWhile fun c => isPlainSign c || c = '\\').elem '\\' then
      withoutTokenJoints (c :: rest)
    else (c :: rest, 0)
  | [] => ([], 0)

/-- Passes over spaces, a comment and joined line ends. -/
def Input.skipBlank (input : Input) : Input :=
  let (rest, joined) := afterBlank input.rest
  { input with rest, line := input.line + joined }

/-- Passes over spaces, comments and line ends. -/
def skipLinesIn : Nat → Input → Input
  | 0, input => input
  | bound + 1, input =>
    let input := input.skipBlank
    match input.rest with
    | '\n' :: rest => skipLinesIn bound (input.nextLine rest)
    | _ => input

/-- Passes over spaces and comments within a line. -/
def skipSpace : Parser Unit := modify Input.skipBlank

/-! ## Reserved words -/

/-- The words that are no commands where a command is read. -/
def reservedWords : List Text := [
  "!", "\x7b", "\x7d", "case", "do", "done", "elif", "else", "esac", "fi", "for", "if", "in",
  "then", "until", "while"]

/-- The reserved word at the start of a text, if there is one. -/
def reservedWord? (text : Text) : Option Text :=
  let word := text.takeWhile (!endsWord ·)
  if reservedWords.elem word then some word else none

/-- Puts the text of an alias in its place at the start of a text, and goes on until none stands
there. An alias inside its own text is left as it is, and so is a reserved word. -/
def Input.openAliases (input : Input) : Nat → Input
  | 0 => input
  | bound + 1 =>
    let word := input.rest.takeWhile (!endsWord ·)
    let isOpen := input.opened.any fun (name, behind) =>
      name = word && behind < input.rest.length
    match if isOpen || reservedWords.elem word then none else input.aliases.lookup word with
    | none => input
    | some text =>
      let behind := input.rest.drop word.length
      let opened := (word, behind.length) :: input.opened
      { input with rest := text ++ behind, opened }.skipBlank.openAliases bound

/-- Puts the texts of aliases in their places at the start of a command. -/
def openAliases : Parser Unit := do
  skipSpace
  modify fun input =>
    if input.aliases.isEmpty then input
    else input.openAliases (input.rest.length + input.aliases.length)

/-- Passes over spaces between the words of a command. A word is like the first one, as to aliases,
if it comes next after the text of an alias that ends with a space. -/
def skipToWord : Parser Unit := do
  let before ← get
  skipSpace
  if !before.opened.isEmpty then
    let after := (← get).rest.length
    let isNext := before.opened.any fun (name, behind) =>
      behind < before.rest.length && after ≤ behind &&
        (((before.aliases.lookup name).bind List.getLast?).map isSpace).getD false
    if isNext then openAliases

/-- Whether a list of commands ends here: at the end of the text, at a closing bracket, or at a
reserved word that does not begin a command. -/
def endsList (text : Text) : Bool :=
  match text with
  | [] | ')' :: _ | ';' :: ';' :: _ => true
  | _ =>
    match reservedWord? text with
    | some word =>
      (["\x7d", "do", "done", "elif", "else", "esac", "fi", "then"] : List Text).elem word
    | none => false

/-- What stands at the start of a text, as errors call it. -/
def describeToken (text : Text) : Text :=
  match text with
  | [] => "end of file"
  | '\n' :: _ => "newline"
  | '&' :: '&' :: _ => "\"&&\""
  | '|' :: '|' :: _ => "\"||\""
  | ';' :: ';' :: _ => "\";;\""
  | c :: rest =>
    if c = '<' || c = '>' then "redirection"
    else if endsWord c then ['"', c, '"']
    else if c.isDigit && rest.head?.any fun d => d = '<' || d = '>' then
      "redirection"
    else match reservedWord? text with
      | some word => "\"" ++ word ++ "\""
      | none => "word"

/-- A symbol as errors call it. -/
def quotedToken (token : Text) : Text := '"' :: token ++ ['"']

/-- Stops at what stands here; a line end counts to the next line. -/
def failHere {α : Type} (problem : Problem) : Parser α := do
  let input ← get
  let line := if input.rest.head? = some '\n' then input.line + 1 else input.line
  throw ⟨line, problem⟩

/-- Passes over the symbol that stands here. -/
def skipSymbol : Parser Unit := do
  match (← get).rest with
  | '<' :: '<' :: '-' :: _ => skip 3
  | '&' :: '&' :: _ | '|' :: '|' :: _ | ';' :: ';' :: _ | '<' :: '<' :: _ | '<' :: '&' :: _
  | '<' :: '>' :: _ | '>' :: '>' :: _ | '>' :: '&' :: _ | '>' :: '|' :: _ => skip 2
  | _ => advance

/-! ## Words -/

/-- What surrounds the characters of a word. -/
inductive Around where
  /-- Nothing. -/
  | nothing
  | quotes
  /-- Braces; `quoted` if those stand between quotes. -/
  | braces (quoted : Bool)
  /-- A calculation, inside the given number of its brackets. -/
  | calculation (depth : Nat)
  /-- A document. -/
  | document

/-- Whether characters stand for themselves as between quotes. -/
def Around.isQuoted : Around → Bool
  | .nothing | .braces false => false
  | .quotes | .braces true | .calculation _ | .document => true

/-- Whether only two closing brackets are missing to the end of a calculation. -/
def Around.isLevel : Around → Bool
  | .calculation 0 => true
  | _ => false

/-- Whether a word ends before the given text. -/
def Around.ends (around : Around) (text : Text) : Bool :=
  match around, text with
  | .nothing, c :: _ => endsWord c
  | .quotes, '"' :: _ => true
  | .braces _, '\x7d' :: _ => true
  | .calculation 0, ')' :: ')' :: _ => true
  | _, _ => false

/-- Whether a backslash before `c` takes a special meaning from it. -/
def Around.escapes (around : Around) (c : Char) : Bool :=
  match around with
  | .nothing | .braces false => true
  | .quotes => c == '$' || c == '`' || c == '"' || c == '\\'
  | .braces true => c == '$' || c == '`' || c == '"' || c == '\\' || c == '\x7d'
  | .calculation _ | .document => c == '$' || c == '`' || c == '\\'

/-- Puts characters in front of a word, quoted or not. -/
def consText (quoted : Bool) (text : Text) (word : Word) : Word :=
  match quoted, word with
  | true, .quoted more :: rest => .quoted (text ++ more) :: rest
  | false, .plain more :: rest => .plain (text ++ more) :: rest
  | true, _ => .quoted text :: word
  | false, _ => .plain text :: word

/-- Takes the text up to a single quote. -/
def takeSingleQuoted : Parser Text := do
  let input ← get
  let text := input.rest.takeWhile (· ≠ '\'')
  let line := input.line + text.count '\n'
  match input.rest.drop text.length with
  | [] => throw ⟨line, .unterminatedQuote⟩
  | _ :: rest =>
    set { input with rest, line }
    return text

/-- Takes the text up to a back quote. A backslash keeps its meaning except before a back quote, a
dollar sign or another backslash, and a line end behind one is left out. -/
def takeBackquoted (quoted : Bool) : Text → Option (Text × Text)
  | [] => none
  | '`' :: rest => some ([], rest)
  | '\\' :: '\n' :: rest => takeBackquoted quoted rest
  | '\\' :: c :: rest =>
    let kept := if c = '`' || c = '$' || c = '\\' || (quoted && c = '"') then [c] else ['\\', c]
    (takeBackquoted quoted rest).map fun (text, rest) => (kept ++ text, rest)
  | c :: rest => (takeBackquoted quoted rest).map fun (text, rest) => (c :: text, rest)

/-- Passes over joined line ends here and in the characters from here on that are `inside`. -/
def skipJoints (inside : Char → Bool) : Parser Unit := modify fun input =>
  let (rest, joined) := withoutJoints inside input.rest
  { input with rest, line := input.line + joined }

/-- Takes the name of a variable or of a value that the shell keeps; it is empty if there is none.
-/
def takeName : Parser Text := do
  skipJoints isNameChar
  match (← get).rest with
  | [] => return []
  | c :: rest =>
    let name :=
      if startsName c then c :: rest.takeWhile isNameChar
      else if c.isDigit then c :: rest.takeWhile Char.isDigit
      else if isSpecialName c then [c]
      else []
    skip name.length
    return name

/-! ## Documents -/

/-- Quotes that a character stands between. -/
inductive Quotes where
  | none
  | single
  | double

/-- The text of a mark at the start of a text, whether a part of it is quoted, and what stands
behind it. Nothing in a mark has a value. There is none if quotes are not closed. -/
def markedText (quotes : Quotes) : Text → Option (Text × Bool × Text)
  | [] => match quotes with
    | .none => some ([], false, [])
    | _ => none
  | c :: rest =>
    let kept (text : Text) (isQuoted : Bool) (rest : Option (Text × Bool × Text)) :
        Option (Text × Bool × Text) :=
      rest.map fun (more, isQuotedLater, rest) => (text ++ more, isQuoted || isQuotedLater, rest)
    match quotes, c, rest with
    | .single, '\'', rest => kept [] true (markedText .none rest)
    | .single, c, rest => kept [c] true (markedText .single rest)
    | _, '\\', '\n' :: rest => markedText quotes rest
    | .none, '\\', c :: rest => kept [c] true (markedText .none rest)
    | .double, '\\', c :: rest =>
      let isKept := !(c == '$' || c == '`' || c == '"' || c == '\\')
      kept (if isKept then ['\\', c] else [c]) true (markedText .double rest)
    | .none, '\'', rest => kept [] true (markedText .single rest)
    | .none, '"', rest => kept [] true (markedText .double rest)
    | .double, '"', rest => kept [] true (markedText .none rest)
    | .none, c, rest =>
      if endsWord c then some ([], false, c :: rest) else kept [c] false (markedText .none rest)
    | .double, c, rest => kept [c] true (markedText .double rest)

/-- Asks for a document that begins behind the end of the line, and gives the number that it will
have. -/
def promise (mark : Mark) : Parser Nat := do
  let input ← get
  let number := input.nextDocument
  set { input with awaited := input.awaited ++ [(number, mark)], nextDocument := number + 1 }
  return number

/-- What stands behind the line of a mark, if a text starts with that. -/
def Mark.passed? (mark : Mark) (text : Text) : Option Text :=
  if !mark.text.isPrefixOf text then none
  else match text.drop mark.text.length with
    | [] => some []
    | '\n' :: rest => some rest
    | _ => none

/-- A line without the tabs that are left out at its start. -/
def Mark.trimmed (mark : Mark) (text : Text) : Text :=
  if mark.dropsTabs then text.dropWhile (· == '\t') else text

/-- The lines of a document that stands for itself, what stands behind it, and how many lines that
is further down. There are at most `bound` lines. -/
def Mark.takeLines (mark : Mark) : Nat → Text → Text × Text × Nat
  | 0, text => ([], text, 0)
  | bound + 1, text =>
    let text := mark.trimmed text
    match mark.passed? text with
    | some rest => ([], rest, 1)
    | none =>
      let line := text.takeWhile (· ≠ '\n')
      match text.drop line.length with
      | [] => (line, [], 0)
      | _ :: rest =>
        let (lines, rest, count) := mark.takeLines bound rest
        (line ++ '\n' :: lines, rest, count + 1)

/-! ## Parts of words -/

/-- A text as pieces, with a home directory in the place of a tilde at its start. A tilde stands for
one if the name behind it goes up to a slash or up to the end of its word; `atEnd` says whether the
word ends with the text. -/
def withHome (atEnd : Bool) : Text → Word
  | '~' :: rest =>
    let user := rest.takeWhile (· ≠ '/')
    let path := rest.drop user.length
    if path.isEmpty then (if atEnd then [.home user] else [.plain ('~' :: rest)])
    else [.home user, .plain path]
  | text => [.plain text]

/-- A word with a home directory in the place of a tilde at its start. -/
def openHome : Word → Word
  | .plain text :: rest => withHome rest.isEmpty text ++ rest
  | word => word

/-- An assigned word with home directories in the places of tildes at its start and behind colons.
-/
def openHomes (atStart : Bool) : Word → Word
  | .plain text :: rest =>
    let parts := Text.pieces ':' text
    let opened := parts.zipIdx.map fun (part, i) =>
      if i = 0 && !atStart then [Piece.plain part]
      else withHome (rest.isEmpty || i + 1 < parts.length) part
    List.intercalate [.plain [':']] opened ++ openHomes false rest
  | piece :: rest => piece :: openHomes false rest
  | [] => []

/-- The descriptor and the operator of a redirection at the start of a text, if there is one, and
their common length. -/
def redirectOperator? (text : Text) : Option (Option Nat × Text × Nat) :=
  let digits := (text.take 1).takeWhile Char.isDigit
  let descriptor := if digits.isEmpty then none else some (Text.numeralValue digits)
  let operators : List Text := ["<<-", "<<", "<&", "<>", "<", ">>", ">&", ">|", ">"]
  (operators.find? (·.isPrefixOf (text.drop digits.length))).map
    fun operator => (descriptor, operator, digits.length + operator.length)

/-- The name that is assigned to at the start of a text, if there is one. -/
def assignedName? (text : Text) : Option Text :=
  let name := text.takeWhile isNameChar
  match text.head?, text.drop name.length with
  | some c, '=' :: _ => if startsName c then some name else none
  | _, _ => none

/-- The commands that end the shell when they go wrong, and cannot be redefined. -/
def specialNames : List Text := [
  ":", ".", "break", "continue", "eval", "exec", "exit", "export", "local", "readonly", "return",
  "set", "shift", "times", "trap", "unset"]

/-- Whether a text may name a variable. -/
def isName (text : Text) : Bool := match text with
  | [] => false
  | c :: rest => startsName c && rest.all isNameChar

/-- The name that a word gives to a function, if it may. -/
def functionName? (word : Word) : Option Text := match word with
  | [.plain name] => if isName name && !specialNames.elem name then some name else none
  | _ => none

/-- The word of an argument that assigns a variable, with home directories in the places of tildes
as in any assignment; there is none if the argument assigns nothing. -/
def assignment? (word : Word) : Option Word := match word with
  | .plain text :: rest =>
    (assignedName? text).map fun name =>
      let length := name.length + 1
      .plain (text.take length) :: openHomes true (.plain (text.drop length) :: rest)
  | _ => none

/-- The parts of a simple command that have been read, last first. -/
structure SimpleParts where
  assignments : List (Text × Word)
  words : List Word
  redirects : List Redirect

/-! ## Recursive descent -/

mutual

/-- The error at what stands here and does not belong here. A word is read first, since something
may be wrong in it. Where nothing is reserved, a reserved word is a word like others. -/
def misplaced : Nat → Bool → Option Text → Parser SyntaxError
  | 0, _, _ => fail .tooDeep
  | n + 1, isReserved, expecting => do
    let rest := (← get).rest
    let described := describeToken rest
    let isWord := described = "word" || (reservedWord? rest).isSome
    if isWord then let _ ← readWord n .nothing
    let what : Text := if isWord && !isReserved then "word" else described
    let line := (← get).line
    return ⟨if rest.head? = some '\n' then line + 1 else line, .unexpected what expecting⟩

/-- Reads a closing bracket. -/
def expectBracket : Nat → Bool → Parser Unit
  | 0, _ => fail .tooDeep
  | n + 1, isReserved => do
    if (← get).rest.head? = some ')' then advance
    else throw (← misplaced n isReserved (some (quotedToken [')'])))

/-- Passes over spaces, comments and line ends, and reads the documents behind them. -/
def skipLines : Nat → Parser Unit
  | 0 => fail .tooDeep
  | n + 1 => do
    skipSpace
    if (← get).rest.head? = some '\n' then
      advance
      readDocuments n
      modify fun input => skipLinesIn (input.rest.length + 1) input

/-- Reads a reserved word. -/
def expectWord : Nat → Text → Parser Unit
  | 0, _ => fail .tooDeep
  | n + 1, word => do
    skipLines n
    if reservedWord? (← get).rest = some word then skip word.length
    else throw (← misplaced n true (some (quotedToken word)))

/-- Reads the documents that were asked for in the line before. -/
def readDocuments : Nat → Parser Unit
  | 0 => fail .tooDeep
  | n + 1 => do
    let input ← get
    match input.awaited with
    | [] => return ()
    | (number, mark) :: awaited =>
      if mark.isQuoted then
        let (text, rest, lines) := mark.takeLines (input.rest.length + 1) input.rest
        let documents := (number, [.quoted text]) :: input.documents
        set { input with rest, line := input.line + lines, documents, awaited }
      else
        set { input with awaited, ending := some mark }
        let word ← readDocumentLine n .document
        modify fun after => { after with
          documents := (number, word) :: after.documents, ending := input.ending }
      readDocuments n

/-- Reads on at the start of a line of a document, up to the end of the document if nothing stands
around. -/
def readDocumentLine : Nat → Around → Parser Word
  | 0, _ => fail .tooDeep
  | n + 1, around => do
    let input ← get
    match input.ending with
    | none => readWord n around
    | some mark =>
      let (rest, joined) := afterJoints input.rest
      let line := input.line + joined
      let text := mark.trimmed rest
      match mark.passed? text with
      | some rest =>
        set { input with rest, line := line + 1 }
        match around with
        | .document => return []
        | .calculation _ => fail .missingParentheses
        | _ => fail .missingBrace
      | none =>
        set { input with rest := text, line }
        match text with
        | '\\' :: '\n' :: _ =>
          advance
          advance
          return consText around.isQuoted ['\\', '\n'] (← readWord n around)
        | _ => readWord n around

/-- Reads the pieces of a word up to its end. -/
def readWord : Nat → Around → Parser Word
  | 0, _ => fail .tooDeep
  | n + 1, around => do
    if around.isLevel && (← get).rest.head? = some ')' then skipJoints (· == ')')
    let input ← get
    if around.ends input.rest then return []
    match input.rest with
    | [] =>
      match around, input.ending with
      | .nothing, _ | .document, _ => return []
      | .calculation _, _ => fail .missingParentheses
      | .braces false, _ | _, some _ => fail .missingBrace
      | .quotes, none | .braces true, none => fail .unterminatedQuote
    | '\\' :: '\n' :: _ =>
      advance
      advance
      readWord n around
    | '\\' :: c :: _ =>
      advance
      advance
      let kept := if around.escapes c then [c] else ['\\', c]
      return consText true kept (← readWord n around)
    | '\'' :: _ =>
      advance
      if around.isQuoted then return consText true ['\''] (← readWord n around)
      else
        let text ← takeSingleQuoted
        return consText true text (← readWord n around)
    | '"' :: _ =>
      advance
      match around with
      | .document | .calculation _ => return consText true ['"'] (← readWord n around)
      | _ =>
        let inner ← readWord n .quotes
        advance
        let rest ← readWord n around
        match inner with
        | [.variable true ['@'] .value] => return inner ++ rest
        | _ => return consText true [] (inner ++ rest)
    | '$' :: _ =>
      let piece ← readDollar n around.isQuoted
      return piece :: (← readWord n around)
    | '`' :: _ =>
      advance
      let input ← get
      match takeBackquoted around.isQuoted input.rest with
      | none => throw ⟨input.line + input.rest.count '\n', .unterminatedBackquote⟩
      | some (text, rest) =>
        set { Input.ofText text with aliases := input.aliases }
        let script ← readList n
        let documents := (← get).documents
        let passed := input.rest.take (input.rest.length - rest.length)
        set { input with rest, line := input.line + passed.count '\n' }
        return .output around.isQuoted (script.withDocuments documents) :: (← readWord n around)
    | '\n' :: _ =>
      advance
      return consText around.isQuoted ['\n'] (← readDocumentLine n around)
    | c :: rest =>
      if isNameChar c then
        let text := c :: rest.takeWhile isNameChar
        skip text.length
        return consText around.isQuoted text (← readWord n around)
      advance
      let next := match around, c with
        | .calculation depth, '(' => .calculation (depth + 1)
        | .calculation depth, ')' => .calculation (depth - 1)
        | around, _ => around
      return consText around.isQuoted [c] (← readWord n next)

/-- Reads what a dollar sign introduces. -/
def readDollar : Nat → Bool → Parser Piece
  | 0, _ => fail .tooDeep
  | n + 1, quotes => do
    advance
    skipJoints fun _ => false
    match (← get).rest with
    | '(' :: '(' :: _ =>
      skip 2
      let expression ← readWord n (.calculation 0)
      skip 2
      return .arithmetic quotes expression
    | '(' :: _ =>
      advance
      let before ← get
      set { before with awaited := [], ending := none }
      let script ← readList n
      expectBracket n true
      let documents := (← get).documents
      modify ({ · with awaited := before.awaited, ending := before.ending })
      return .output quotes (script.withDocuments documents)
    | '\x7b' :: _ =>
      advance
      readBraces n quotes
    | c :: _ =>
      if startsName c || isSpecialName c then return .variable quotes (← takeName) .value
      else if c.isDigit then
        advance
        return .variable quotes [c] .value
      else return if quotes then .quoted ['$'] else .plain ['$']
    | [] => return if quotes then .quoted ['$'] else .plain ['$']

/-- Reads what stands between braces after a dollar sign. -/
def readBraces : Nat → Bool → Parser Piece
  | 0, _ => fail .tooDeep
  | n + 1, quotes => do
    let unknown (name : Text) : Parser Piece := do
      let _ ← readWord n (.braces quotes)
      advance
      return .variable quotes name .unknown
    let isLength := match (← get).rest with
      | '#' :: c :: rest =>
        startsName c || c.isDigit || (c ≠ '\x7d' && rest.head? = some '\x7d')
      | _ => false
    if isLength then advance
    let name ← takeName
    let isComplete := (← get).rest.head? = some '\x7d'
    if name.isEmpty then
      if isLength || !isComplete then skip 1
      return ← unknown name
    if isLength then
      if !isComplete then return ← unknown name
      advance
      return .variable quotes name .length
    let fallback (kind : Fallback) (orEmpty : Bool) : Parser Piece := do
      let word ← readWord n (.braces quotes)
      advance
      return .variable quotes name (.fallback kind orEmpty (openHome word))
    let trim (atEnd longest : Bool) : Parser Piece := do
      let pattern ← readWord n (.braces false)
      advance
      return .variable quotes name (.trim atEnd longest (openHome pattern))
    match (← get).rest with
    | '\x7d' :: _ =>
      advance
      return .variable quotes name .value
    | ':' :: '-' :: _ => do skip 2; fallback .substitute true
    | ':' :: '=' :: _ => do skip 2; fallback .assign true
    | ':' :: '?' :: _ => do skip 2; fallback .stop true
    | ':' :: '+' :: _ => do skip 2; fallback .alternative true
    | '-' :: _ => do skip 1; fallback .substitute false
    | '=' :: _ => do skip 1; fallback .assign false
    | '?' :: _ => do skip 1; fallback .stop false
    | '+' :: _ => do skip 1; fallback .alternative false
    | '%' :: '%' :: _ => do skip 2; trim true true
    | '%' :: _ => do skip 1; trim true false
    | '#' :: '#' :: _ => do skip 2; trim false true
    | '#' :: _ => do skip 1; trim false false
    | ':' :: '\x7d' :: _ =>
      skip 2
      let word ← readWord n (.braces quotes)
      advance
      return .variable quotes name (.followed word)
    | ':' :: _ :: _ => do skip 2; unknown name
    | _ => do skip 1; unknown name

/-- Reads a redirection, if one stands here. -/
def readRedirect : Nat → Parser (Option Redirect)
  | 0 => fail .tooDeep
  | n + 1 => do
    match redirectOperator? (← get).rest with
    | none => return none
    | some (descriptor, operator, length) =>
      skip length
      skipSpace
      if operator = "<<" || operator = "<<-" then
        let input ← get
        match markedText .none input.rest with
        | none => throw ⟨input.line + input.rest.count '\n', .unterminatedQuote⟩
        | some (text, isQuoted, rest) =>
          let passed := input.rest.take (input.rest.length - rest.length)
          if passed.isEmpty then throw (← misplaced n true none)
          set { input with rest, line := input.line + passed.count '\n' }
          let number ← promise ⟨text, isQuoted, operator = "<<-"⟩
          return some (.mk (descriptor.getD 0) (.promised number) [])
      if (redirectOperator? (← get).rest).isSome then throw (← misplaced n true none)
      let target := openHome (← readWord n .nothing)
      if target.isEmpty then throw (← misplaced n true none)
      let redirect (default : Nat) (kind : RedirectKind) (target : Word) : Option Redirect :=
        some (.mk (descriptor.getD default) kind target)
      if operator = "<" then return redirect 0 .input target
      else if operator = ">" then return redirect 1 .output target
      else if operator = ">|" then return redirect 1 .overwrite target
      else if operator = ">>" then return redirect 1 .append target
      else if operator = "<>" then return redirect 0 .both target
      else if operator = "<&" then return redirect 0 .duplicate target
      else return redirect 1 .duplicate target

/-- Reads redirections for as long as there are any. -/
def readRedirects : Nat → Parser (List Redirect)
  | 0 => fail .tooDeep
  | n + 1 => do
    skipSpace
    match ← readRedirect n with
    | none => return []
    | some redirect => return redirect :: (← readRedirects n)

/-- Reads words up to the end of a line or of a command. -/
def readWords : Nat → Parser (List Word)
  | 0 => fail .tooDeep
  | n + 1 => do
    skipSpace
    let word := openHome (← readWord n .nothing)
    if word.isEmpty then return [] else return word :: (← readWords n)

/-- Reads a list of commands, which may go over several lines. -/
def readList : Nat → Parser Script
  | 0 => fail .tooDeep
  | n + 1 => do
    skipLines n
    if endsList (← get).rest then return .nothing
    let first ← readAndOr n
    skipSpace
    match (← get).rest with
    | ';' :: ';' :: _ => return first
    | ';' :: _ =>
      advance
      return first.followedBy (← readList n)
    | '&' :: _ =>
      advance
      return (Script.background first).followedBy (← readList n)
    | '\n' :: _ => return first.followedBy (← readList n)
    | _ => return first

/-- Reads a list of commands that must not be empty, unless the text ends there. -/
def readBody : Nat → Parser Script
  | 0 => fail .tooDeep
  | n + 1 => do
    skipLines n
    let rest := (← get).rest
    if !rest.isEmpty && endsList rest then throw (← misplaced n true none)
    readList n

/-- Reads pipelines joined by conditions. -/
def readAndOr : Nat → Parser Script
  | 0 => fail .tooDeep
  | n + 1 => do
    let first ← readPipeline n
    readAndOrAfter n first

/-- Reads what a condition joins to a script. -/
def readAndOrAfter : Nat → Script → Parser Script
  | 0, _ => fail .tooDeep
  | n + 1, first => do
    skipSpace
    match (← get).rest with
    | '&' :: '&' :: _ =>
      skip 2
      skipLines n
      let second ← readPipeline n
      readAndOrAfter n (.andThen first second)
    | '|' :: '|' :: _ =>
      skip 2
      skipLines n
      let second ← readPipeline n
      readAndOrAfter n (.orElse first second)
    | _ => return first

/-- Reads a pipeline. -/
def readPipeline : Nat → Parser Script
  | 0 => fail .tooDeep
  | n + 1 => do
    openAliases
    if reservedWord? (← get).rest = some "!" then
      skip 1
      return .pipeline true (← readParts n)
    else
      match ← readParts n with
      | [part] => return part
      | parts => return .pipeline false parts

/-- Reads commands joined by pipes. -/
def readParts : Nat → Parser (List Script)
  | 0 => fail .tooDeep
  | n + 1 => do
    let first ← readCommand n
    skipSpace
    match (← get).rest with
    | '|' :: '|' :: _ => return [first]
    | '|' :: _ =>
      advance
      skipLines n
      return first :: (← readParts n)
    | _ => return [first]

/-- Reads one command with its redirections. -/
def readCommand : Nat → Parser Script
  | 0 => fail .tooDeep
  | n + 1 => do
    openAliases
    let input ← get
    let compound ← readCompound n
    match compound with
    | none => readSimple n none ⟨[], [], []⟩
    | some script =>
      match ← readRedirects n with
      | [] => return script
      | redirects => return .redirected input.line script redirects

/-- Reads a command that begins with a bracket or a reserved word, if one stands here. -/
def readCompound : Nat → Parser (Option Script)
  | 0 => fail .tooDeep
  | n + 1 => do
    let input ← get
    if input.rest.head? = some '(' then
      advance
      let body ← readBody n
      skipLines n
      expectBracket n true
      return some (.subshell body)
    match reservedWord? input.rest with
    | none => return none
    | some word =>
      if word = "\x7b" then
        skip 1
        let body ← readBody n
        expectWord n "\x7d"
        return some body
      else if word = "if" then
        skip 2
        return some (← readBranch n)
      else if word = "while" || word = "until" then
        skip 5
        let condition ← readBody n
        expectWord n "do"
        let body ← readBody n
        expectWord n "done"
        return some (.loop (word = "until") condition body)
      else if word = "for" then
        skip 3
        return some (← readEach n input.line)
      else if word = "case" then
        skip 4
        skipSpace
        let subject := openHome (← readWord n .nothing)
        if subject.isEmpty then throw (← misplaced n true (some "word"))
        expectWord n "in"
        let arms ← readArms n
        return some (.choose input.line subject arms)
      else throw (← misplaced n true none)

/-- Reads a branch after its first word. -/
def readBranch : Nat → Parser Script
  | 0 => fail .tooDeep
  | n + 1 => do
    let condition ← readBody n
    expectWord n "then"
    let yes ← readBody n
    skipLines n
    let word := reservedWord? (← get).rest
    if word = some "elif" then
      skip 4
      return .branch condition yes (← readBranch n)
    else if word = some "else" then
      skip 4
      let no ← readBody n
      expectWord n "fi"
      return .branch condition yes no
    else
      expectWord n "fi"
      return .branch condition yes .nothing

/-- Reads a loop over words after its first word. -/
def readEach : Nat → Nat → Parser Script
  | 0, _ => fail .tooDeep
  | n + 1, line => do
    skipSpace
    let word ← readWord n .nothing
    let text := match word with
      | [.plain name] => name
      | _ => []
    if word.isEmpty then failHere .badLoopVariable
    if !isName text then fail .badLoopVariable
    skipLines n
    let words ←
      if reservedWord? (← get).rest = some "in" then
        skip 2
        let words ← readWords n
        match (← get).rest with
        | ';' :: ';' :: _ => throw (← misplaced n true none)
        | ';' :: _ => advance
        | '\n' :: _ => skipLines n
        | _ => throw (← misplaced n true none)
        pure (some words)
      else
        match (← get).rest with
        | ';' :: ';' :: _ => pure ()
        | ';' :: _ => advance
        | _ => pure ()
        pure none
    expectWord n "do"
    let body ← readBody n
    expectWord n "done"
    return .each line text words body

/-- Reads the arms of a choice up to its last word. -/
def readArms : Nat → Parser (List (List Word × Script))
  | 0 => fail .tooDeep
  | n + 1 => do
    skipLines n
    if reservedWord? (← get).rest = some "esac" then
      skip 4
      return []
    if (← get).rest.head? = some '(' then advance
    let patterns ← readPatterns n
    expectBracket n false
    let body ← readList n
    skipLines n
    if (← get).rest.take 2 = [';', ';'] then
      skip 2
      return (patterns, body) :: (← readArms n)
    else if reservedWord? (← get).rest = some "esac" then
      skip 4
      return [(patterns, body)]
    else throw (← misplaced n true (some (quotedToken ";;")))

/-- Reads the patterns of an arm. A symbol may stand in the place of a pattern, and then matches
nothing. -/
def readPatterns : Nat → Parser (List Word)
  | 0 => fail .tooDeep
  | n + 1 => do
    skipSpace
    let word := openHome (← readWord n .nothing)
    if word.isEmpty then skipSymbol
    skipSpace
    if (← get).rest.head? = some '|' then
      advance
      return word :: (← readPatterns n)
    else return [word]

/-- Reads the rest of a simple command, or of the definition of a function. A command counts to the
line on which its first part ends. -/
def readSimple : Nat → Option Nat → SimpleParts → Parser Script
  | 0, _, _ => fail .tooDeep
  | n + 1, line, parts => do
    if parts.words.isEmpty then openAliases else skipToWord
    let start := (← get).line
    match ← readRedirect n with
    | some redirect =>
      readSimple n (line.getD start) { parts with redirects := redirect :: parts.redirects }
    | none =>
      let rest := (← get).rest
      match (if parts.words.isEmpty then assignedName? rest else none) with
      | some name =>
        skip (name.length + 1)
        let value := openHomes true (← readWord n .nothing)
        readSimple n (line.getD (← get).line)
          { parts with assignments := (name, value) :: parts.assignments }
      | none =>
        let word := openHome (← readWord n .nothing)
        match word, parts, rest with
        | [], ⟨[], [name], []⟩, '(' :: _ =>
          advance
          skipSpace
          expectBracket n false
          match functionName? name with
          | none => fail .badFunctionName
          | some name =>
            skipLines n
            return .define name (← readCommand n)
        | [], ⟨[], [], []⟩, _ => throw (← misplaced n true none)
        | [], _, _ =>
          return .simple (line.getD start) parts.assignments.reverse parts.words.reverse
            parts.redirects.reverse
        | word, _, _ =>
          readSimple n (line.getD (← get).line) { parts with words := word :: parts.words }

end

/-! ## Complete commands -/

/-- Reads the rest of a complete command, which ends with its line but not with the line feed. -/
def readLine : Nat → Parser Script
  | 0 => fail .tooDeep
  | n + 1 => do
    openAliases
    match (← get).rest with
    | [] | '\n' :: _ => return .nothing
    | _ =>
      let first ← readAndOr n
      skipSpace
      let after (script : Script) : Parser Script := do
        return script.followedBy (← readLine n)
      match (← get).rest with
      | [] | '\n' :: _ => return first
      | ';' :: ';' :: _ => throw (← misplaced n true none)
      | ';' :: _ =>
        advance
        after first
      | '&' :: _ =>
        advance
        after (.background first)
      | _ => throw (← misplaced n true none)

/-- The word that a whole text is, read as a document is. -/
def documentWord (text : Text) : Except SyntaxError Word :=
  let endless : Mark := ⟨[Text.null], false, false⟩
  let input := { Input.ofText text with ending := some endless }
  ((readWord (16 * text.length + 64) .document).run input).map (·.1)

/-- Takes the next complete command from a text; there is none if the text holds only blanks and
comments. -/
def nextCommand (input : Input) : Except SyntaxError (Option (Script × Input)) := do
  let input := skipLinesIn (input.rest.length + 1) input
  if input.rest.isEmpty then return none
  let bound := 16 * input.rest.length + 64
  let (script, input) ← (readLine bound <* finishLine bound).run input
  return some (script.withDocuments input.documents,
    { input with awaited := [], documents := [] })
where
  /-- Reads the documents that begin behind the line. -/
  finishLine (bound : Nat) : Parser Unit := do
    if !(← get).awaited.isEmpty then
      advance
      readDocuments bound

end Runbook.Shell
