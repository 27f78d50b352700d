import Runbook.Shell.Editing.Escapes
import Runbook.Shell.Regex.Notation

/-!
# How scripts that edit lines are written

`Script.read` reads a script that is given in parts, each of them an argument or a file. A `Fault`
says what is wrong with it and where: in an argument the place is the number of characters that were
read so far, in a file it is a line.
-/

namespace Runbook.Shell.Editing

/-- A part of a script: the name of the file that it is from, unless it is an argument. -/
structure Fragment where
  file : Option Text
  text : Text

/-- What is wrong with a script. -/
inductive Problem where
  | unknownCommand (c : Char)
  | missingCommand
  | extraCharacters
  | unterminated (command : Char)
  | unterminatedAddress
  | unknownFlag
  | repeatedFlag (name : Text)
  | zeroNumber
  | unequalLengths
  | unopenedBrace
  | unclosedBrace
  | closingAddress
  | unexpectedComma
  | zeroLine
  | relativeStart
  | twoAddresses
  | repeatedNegation
  | missingText
  | missingLabel
  | labelAddress
  | commentAddress
  | missingName
  | newerVersion
  | badGroup (n : Nat)
  | flagsOfNothing
  | noLastPattern
  | badPattern (fault : Regex.Fault)

/-- What is wrong with a script, in words. -/
def Problem.message : Problem → Text
  | .unknownCommand c => "unknown command: \x60" ++ [c] ++ "'"
  | .missingCommand => "missing command"
  | .extraCharacters => "extra characters after command"
  | .unterminated command => "unterminated \x60" ++ [command] ++ "' command"
  | .unterminatedAddress => "unterminated address regex"
  | .unknownFlag => "unknown option to \x60s'"
  | .repeatedFlag name => "multiple " ++ name ++ " options to \x60s' command"
  | .zeroNumber => "number option to \x60s' command may not be zero"
  | .unequalLengths => "strings for \x60y' command are different lengths"
  | .unopenedBrace => "unexpected \x60\x7d'"
  | .unclosedBrace => "unmatched \x60\x7b'"
  | .closingAddress => "\x60\x7d' doesn't want any addresses"
  | .unexpectedComma => "unexpected \x60,'"
  | .zeroLine => "invalid usage of line address 0"
  | .relativeStart => "invalid usage of +N or ~N as first address"
  | .twoAddresses => "command only uses one address"
  | .repeatedNegation => "multiple \x60!'s"
  | .missingText => "expected \\ after \x60a', \x60c' or \x60i'"
  | .missingLabel => "\":\" lacks a label"
  | .labelAddress => ": doesn't want any addresses"
  | .commentAddress => "comments don't accept any addresses"
  | .missingName => "missing filename in r/R/w/W commands"
  | .newerVersion => "expected newer version of sed"
  | .badGroup n => "invalid reference \\" ++ Text.ofNat n ++ " on \x60s' command's RHS"
  | .flagsOfNothing => "cannot specify modifiers on empty regexp"
  | .noLastPattern => "no previous regular expression"
  | .badPattern fault => fault.message

/-- A complaint about a script, with the status at which the program ends. -/
structure Fault where
  message : Text
  status : Nat

/-- A complaint about something at a place of an argument, which has a number. -/
def Fault.atPlace (problem : Problem) (part place : Nat) : Fault :=
  ⟨"-e expression #" ++ Text.ofNat part ++ ", char " ++ Text.ofNat place ++ ": " ++ problem.message,
    1⟩

/-- A complaint about something in a line of a file. -/
def Fault.inFile (problem : Problem) (name : Text) (line : Nat) : Fault :=
  ⟨"file " ++ name ++ " line " ++ Text.ofNat line ++ ": " ++ problem.message, 1⟩

/-- The fragment that is being read, and what has been read so far. -/
structure Progress where
  rest : Text
  /-- How many characters have been read, and how many of them were line feeds. -/
  read : Nat
  line : Nat
  file : Option Text
  /-- The number of the argument. -/
  part : Nat
  isFirst : Bool
  commands : Array Command
  labels : List (Text × Nat)
  /-- The blocks that have not been closed: their places, and the complaints if that stays so. -/
  blocks : List (Nat × Fault)
  outputs : List Text
  isSilent : Bool
  /-- Line feeds end no lines. -/
  isUnlined : Bool
  /-- The text of the last command, which may go on in the next fragment. -/
  openText : Option Text

/-- A reader of scripts. -/
abbrev Reader := StateT Progress (Except Fault)

namespace Reader

/-- Ends the reading with a complaint. -/
def fail {α : Type} (problem : Problem) : Reader α := do
  let progress ← get
  if problem.message = (Regex.Fault.classOutsideBracket).message then
    throw ⟨problem.message, 4⟩
  throw (match progress.file with
    | some name => .inFile problem name (progress.line + 1)
    | none => .atPlace problem progress.part progress.read)

/-- The next character, unless there is none. -/
def next : Reader (Option Char) := do
  match (← get).rest with
  | [] => return none
  | c :: rest =>
    modify fun progress => { progress with
      rest, read := progress.read + 1
      line := if c = '\n' then progress.line + 1 else progress.line }
    return some c

/-- Takes a character back. -/
def back : Option Char → Reader Unit
  | none => return ()
  | some c => modify fun progress => { progress with
      rest := c :: progress.rest, read := progress.read - 1
      line := if c = '\n' then progress.line - 1 else progress.line }

/-- Reads characters for as long as `accepts` holds of them. -/
def takeWhile (accepts : Char → Bool) : Reader Text := do
  let found := (← get).rest.takeWhile accepts
  modify fun progress => { progress with
    rest := progress.rest.drop found.length, read := progress.read + found.length
    line := progress.line + found.count '\n' }
  return found

/-- Whether a character is a blank. -/
def isBlank (c : Char) : Bool := c == ' ' || c == '\t'

/-- The next character that is no blank. -/
def nextVisible : Reader (Option Char) := do
  let _ ← takeWhile isBlank
  next

/-- Whether a character is a digit. -/
def isDigit (c : Option Char) : Bool := (c.map Char.isDigit).getD false

/-- Reads a number that starts with the given character; it is zero if that is no digit. -/
def number (c : Option Char) : Reader Nat := do
  back c
  return Text.numeralValue (← takeWhile Char.isDigit)

/-- Reads up to the end of a command. -/
def endOfCommand : Reader Unit := do
  let c ← nextVisible
  if c = some '\x7d' || c = some '#' then back c
  else if c.isSome && c ≠ some '\n' && c ≠ some ';' then fail .extraCharacters

/-- The part of a bracket up to its end at the start of a text from behind its opening, if it has an
end on the same line. A line feed may be given as an escape. -/
def bracketEnd : Nat → Bool → Text → Option (Text × Text)
  | 0, _, _ => none
  | _, _, [] => none
  | bound + 1, isFirst, c :: rest =>
    let passing (taken rest : Text) : Option (Text × Text) :=
      (bracketEnd bound false rest).map fun (more, rest) => (taken ++ more, rest)
    if c = '\n' then none
    else if c = ']' && !isFirst then some ([']'], rest)
    else match c, rest with
      | '\\', 'n' :: rest => passing ['\n'] rest
      | '[', mark :: rest =>
        if mark = ':' || mark = '.' || mark = '=' then
          match Regex.takeNamed mark rest with
          | some (name, after) =>
            if name.elem '\n' then none else passing ('[' :: mark :: name ++ [mark, ']']) after
          | none => none
        else passing ['['] (mark :: rest)
      | c, rest => passing [c] rest

/-- Reads up to a separator that has no backslash before it, if there is one on the line. In a
pattern a bracket hides it. -/
def upTo (separator : Char) (isPattern : Bool) : Nat → Reader (Option Text)
  | 0 => return none
  | bound + 1 => do
    match ← next with
    | none => return none
    | some '\n' =>
      if separator = '\n' then return some []
      back (some '\n')
      return none
    | some c =>
      if c = separator then return some []
      else if c = '\\' then
        match ← next with
        | none => return none
        | some d =>
          let taken :=
            if d = separator && (isPattern || d ≠ '&') then [d]
            else if d = 'n' && isPattern then ['\n']
            else if d = '\n' then [d]
            else ['\\', d]
          return (← upTo separator isPattern bound).map (taken ++ ·)
      else if c = '[' && isPattern then
        let rest := (← get).rest
        let (caret, inside) : Text × Text := match rest with
          | '^' :: rest => (['^'], rest)
          | rest => ([], rest)
        match bracketEnd (inside.length + 1) true inside with
        | some (taken, after) =>
          modify fun progress => { progress with
            rest := after, read := progress.read + (rest.length - after.length) }
          return (← upTo separator isPattern bound).map ('[' :: caret ++ taken ++ ·)
        | none =>
          let _ ← takeWhile (· ≠ '\n')
          return none
      else return (← upTo separator isPattern bound).map (c :: ·)

/-- Reads up to a separator. -/
def upToSeparator (separator : Option Char) (isPattern : Bool) : Reader (Option Text) := do
  match separator with
  | some c => if c = '\n' || c = '\\' then return none else
      upTo c isPattern ((← get).rest.length + 1)
  | none => return none

/-! ## Patterns and addresses -/

/-- The expression that a pattern denotes, or none for an empty pattern; `groups` is the greatest
number of a group that is referred to elsewhere. -/
def compile (dialect : Regex.Dialect) (pattern : Text) (groups : Nat) : Reader (Option Regex) := do
  if pattern.isEmpty then
    if dialect.ignoreCase || dialect.manyLines then fail .flagsOfNothing
    return none
  let isUnlined := (← get).isUnlined
  let dialect := { dialect with manyLines := dialect.manyLines && !isUnlined }
  match Regex.readCounted dialect (withoutEscapes .pattern pattern) with
  | .error fault => fail (.badPattern fault)
  | .ok (regex, count) =>
    if count < groups then fail (.badGroup groups)
    return some regex

/-- Reads the flags behind the pattern of an address. -/
def addressFlags (dialect : Regex.Dialect) : Nat → Reader Regex.Dialect
  | 0 => return dialect
  | bound + 1 => do
    let c ← nextVisible
    if c = some 'I' then addressFlags { dialect with ignoreCase := true } bound
    else if c = some 'M' then addressFlags { dialect with manyLines := true } bound
    else
      back c
      return dialect

/-- Reads the pattern of an address up to its separator, with its flags. -/
def patternAddress (dialect : Regex.Dialect) (separator : Option Char) : Reader Address := do
  match ← upToSeparator separator true with
  | none => fail .unterminatedAddress
  | some pattern =>
    let dialect ← addressFlags dialect ((← get).rest.length + 1)
    return .matching (← compile dialect pattern 0)

/-- Reads where a range stops, or an address, from a character on, if there is one. -/
def stop? (dialect : Regex.Dialect) (c : Option Char) : Reader (Option Stop) := do
  if c = some '/' then return some (.address (← patternAddress dialect c))
  else if c = some '\\' then return some (.address (← patternAddress dialect (← next)))
  else if c = some '$' then return some (.address .last)
  else if c = some '+' then return some (.after (← number (← nextVisible)))
  else if c = some '~' then return some (.multiple (← number (← nextVisible)))
  else if isDigit c then
    let first ← number c
    let c ← nextVisible
    if c = some '~' then
      let step ← number (← nextVisible)
      return some (.address (if step = 0 then .line first else .every first step))
    else
      back c
      return some (.address (.line first))
  else return none

/-- Whether an address is the line before the first one. -/
def isZero : Option Address → Bool
  | some (.line 0) => true
  | _ => false

/-- Reads the selection of a command from a character on, and the character behind it. -/
def selection (dialect : Regex.Dialect) (c : Option Char) : Reader (Selection × Option Char) := do
  let negation (start : Option Address) (stop : Option Stop) (c : Option Char) :
      Reader (Selection × Option Char) := do
    if c ≠ some '!' then return (⟨start, stop, false⟩, c)
    let c ← nextVisible
    if c = some '!' then fail .repeatedNegation
    return (⟨start, stop, true⟩, c)
  match ← stop? dialect c with
  | none => negation none none c
  | some (.address start) =>
    let c ← nextVisible
    if c = some ',' then
      match ← stop? dialect (← nextVisible) with
      | none => fail .unexpectedComma
      | some stop =>
        let c ← nextVisible
        let isPattern := match stop with
          | .address (.matching _) => true
          | _ => false
        if isZero (some start) && !isPattern then fail .zeroLine
        negation (some start) (some stop) c
    else
      if isZero (some start) then fail .zeroLine
      negation (some start) none c
  | some _ => fail .relativeStart

/-! ## Actions -/

/-- Reads a label. -/
def label : Reader Text := do
  let _ ← takeWhile isBlank
  takeWhile fun c => !(isWhite c || c == ';' || c == '\x7d')

/-- Reads the name of a file up to the end of the line. -/
def fileName : Reader Text := do
  let _ ← takeWhile isBlank
  let name ← takeWhile (· ≠ '\n')
  let _ ← next
  if name.isEmpty then fail .missingName
  return name

/-- Reads the name of a file that is written to. -/
def outputName : Reader Text := do
  let name ← fileName
  modify fun progress => { progress with outputs := progress.outputs ++ [name] }
  return name

/-- Reads the lines of a text, each but the last of which ends with a backslash. -/
def textLines : Nat → Reader Text
  | 0 => return []
  | bound + 1 => do
    match ← next with
    | none | some '\n' =>
      modify ({ · with openText := none })
      return ['\n']
    | some '\\' =>
      match ← next with
      | none => return ['\n']
      | some c => return '\\' :: c :: (← textLines bound)
    | some c => return c :: (← textLines bound)

/-- What a text stands for. -/
def plainText (text : Text) : Text := withoutGuards (withoutEscapes .plain text)

/-- Reads the text of a command; `before` is what was read of it in another fragment. -/
def openedText (before : Text) : Reader Text := do
  modify ({ · with openText := some [] })
  let text ← textLines ((← get).rest.length + 1)
  let all := before ++ plainText text
  modify fun progress => { progress with openText := progress.openText.map fun _ => all }
  return all

/-- Reads the text of a command from behind the character that starts it. -/
def commandText (c : Option Char) : Reader Text := do
  match c with
  | none => fail .missingText
  | some '\\' =>
    match ← next with
    | none =>
      modify ({ · with openText := some [] })
      return []
    | some '\n' => openedText []
    | c =>
      back c
      openedText []
  | c =>
    back c
    openedText []

/-- The flags of a substitution. -/
structure Flags where
  dialect : Regex.Dialect
  number : Option Nat
  everywhere : Bool
  shows : Bool
  runs : Bool
  file : Option Text

/-- Reads the flags of a substitution. -/
def substitutionFlags : Nat → Flags → Reader Flags
  | 0, flags => return flags
  | bound + 1, flags => do
    match ← next with
    | none | some '\n' | some ';' => return flags
    | some '\x7d' =>
      back (some '\x7d')
      return flags
    | some '#' =>
      back (some '#')
      return flags
    | some 'i' | some 'I' =>
      substitutionFlags bound { flags with dialect := { flags.dialect with ignoreCase := true } }
    | some 'm' | some 'M' =>
      substitutionFlags bound { flags with dialect := { flags.dialect with manyLines := true } }
    | some 'e' => substitutionFlags bound { flags with runs := true }
    | some 'p' =>
      if flags.shows then fail (.repeatedFlag "\x60p'")
      substitutionFlags bound { flags with shows := true }
    | some 'g' =>
      if flags.everywhere then fail (.repeatedFlag "\x60g'")
      substitutionFlags bound { flags with everywhere := true }
    | some 'w' => return { flags with file := some (← outputName) }
    | some c =>
      if c.isDigit then
        if flags.number.isSome then fail (.repeatedFlag "number")
        let n ← number (some c)
        if n = 0 then fail .zeroNumber
        substitutionFlags bound { flags with number := some n }
      else if isBlank c then substitutionFlags bound flags
      else fail .unknownFlag

/-- Reads a substitution from behind its letter. -/
def substitution (dialect : Regex.Dialect) : Reader Substitution := do
  let separator ← next
  match ← upToSeparator separator true with
  | none => fail (.unterminated 's')
  | some pattern =>
    match ← upToSeparator separator false with
    | none => fail (.unterminated 's')
    | some replacement =>
      let parts := partsOf (withoutEscapes .replacement replacement)
      let flags ← substitutionFlags ((← get).rest.length + 1)
        ⟨dialect, none, false, false, false, none⟩
      let groups := (parts.map fun part => part.group.getD 0).foldl max 0
      let regex ← compile flags.dialect pattern groups
      return ⟨regex, parts, flags.number.getD 1, flags.everywhere, flags.shows, flags.runs,
        flags.file⟩

/-- Reads a translation from behind its letter. -/
def translation : Reader (List (Char × Char)) := do
  let separator ← next
  match ← upToSeparator separator false with
  | none => fail (.unterminated 'y')
  | some source =>
    match ← upToSeparator separator false with
    | none => fail (.unterminated 'y')
    | some target =>
      let source := plainText source
      let target := plainText target
      if source.length ≠ target.length then fail .unequalLengths
      endOfCommand
      return source.zip target

/-- Reads a number behind a letter, if there is one, and the end of the command. -/
def numberArgument : Reader (Option Nat) := do
  let c ← nextVisible
  if isDigit c then
    let n ← number c
    endOfCommand
    return some n
  else
    back c
    endOfCommand
    return none

/-- The action of a letter that is a whole command. -/
def simpleAction? (letter : Char) : Option Action :=
  match letter with
  | '=' => some .showNumber
  | 'd' => some .delete
  | 'D' => some .deleteFirst
  | 'F' => some .showName
  | 'g' => some .take
  | 'G' => some .takeMore
  | 'h' => some .hold
  | 'H' => some .holdMore
  | 'n' => some .next
  | 'N' => some .nextMore
  | 'p' => some .print
  | 'P' => some .printFirst
  | 'x' => some .exchange
  | 'z' => some .clear
  | _ => none

/-- Adds a command. -/
def add (selection : Selection) (action : Action) : Reader Unit :=
  modify fun progress => { progress with commands := progress.commands.push ⟨selection, action⟩ }

/-- Reads a comment from behind its mark; one of a single letter at the very start of a script asks
for silence. -/
def comment : Reader Unit := do
  let progress ← get
  if progress.isFirst && progress.read = 1 && progress.rest.head? = some 'n' then
    modify ({ · with isSilent := true })
  let _ ← takeWhile (· ≠ '\n')
  let _ ← next

/-- Closes the block that was opened last. -/
def closeBlock : Reader Unit := do
  let progress ← get
  match progress.blocks with
  | [] => fail .unopenedBrace
  | (place, _) :: blocks =>
    let stop := progress.commands.size
    set { progress with
      blocks
      commands := progress.commands.modify place fun command =>
        { command with action := .block stop } }

/-- Opens a block. -/
def openBlock (selection : Selection) : Reader Unit := do
  modify fun progress =>
    let problem := Problem.unclosedBrace
    let fault : Fault := match progress.file with
      | some name => .inFile problem name (progress.line + 1)
      | none => .atPlace problem progress.part 0
    { progress with blocks := (progress.commands.size, fault) :: progress.blocks }
  add selection (.block 0)

/-- Whether a version of the program is newer than this one. -/
def isNewer (version : Text) : Bool :=
  let numbers := (Text.pieces '.' version).map Text.numeralValue
  match numbers with
  | major :: rest => 4 < major || major = 4 && 9 < rest.headD 0
  | [] => false

/-- Reads the action of a letter, and adds the command. -/
def action (dialect : Regex.Dialect) (selection : Selection) (letter : Option Char) :
    Reader Unit := do
  let add (action : Action) : Reader Unit := add selection action
  match letter with
  | none => fail .missingCommand
  | some '#' =>
    if selection.start.isSome then fail .commentAddress
    comment
  | some 'v' =>
    if isNewer (← label) then fail .newerVersion
    endOfCommand
  | some '\x7b' => openBlock selection
  | some '\x7d' =>
    if (← get).blocks.isEmpty then fail .unopenedBrace
    if selection.start.isSome then fail .closingAddress
    endOfCommand
    closeBlock
  | some 'e' =>
    let c ← nextVisible
    if c.isNone || c = some '\n' then add (.run []) else add (.run (← commandText c))
  | some 'a' => add (.append (← commandText (← nextVisible)))
  | some 'i' => add (.insert (← commandText (← nextVisible)))
  | some 'c' => add (.change (← commandText (← nextVisible)))
  | some ':' =>
    if selection.start.isSome then fail .labelAddress
    let name ← label
    if name.isEmpty then fail .missingLabel
    modify fun progress =>
      { progress with labels := progress.labels ++ [(name, progress.commands.size)] }
  | some 'b' => add (.branch none (← label))
  | some 't' => add (.branch (some true) (← label))
  | some 'T' => add (.branch (some false) (← label))
  | some 'q' =>
    if selection.stop.isSome then fail .twoAddresses
    add (.quit ((← numberArgument).getD 0) false)
  | some 'Q' =>
    if selection.stop.isSome then fail .twoAddresses
    add (.quit ((← numberArgument).getD 0) true)
  | some 'l' => add (.list (← numberArgument))
  | some 'r' => add (.readFile (← fileName))
  | some 'R' => add (.readLine (← fileName))
  | some 'w' => add (.writeFile (← outputName))
  | some 'W' => add (.writeFirst (← outputName))
  | some 's' => add (.substitute (← substitution dialect))
  | some 'y' => add (.translate (← translation))
  | some letter =>
    match simpleAction? letter with
    | some action =>
      endOfCommand
      add action
    | none => fail (.unknownCommand letter)

/-- Reads the commands of a fragment, of which there are at most `bound`. -/
def commands (dialect : Regex.Dialect) : Nat → Reader Unit
  | 0 => return ()
  | bound + 1 => do
    let _ ← takeWhile fun c => isWhite c || c == ';'
    let c ← next
    if c.isSome then
      let (selection, letter) ← selection dialect c
      action dialect selection letter
      commands dialect bound

/-- An action with another text. -/
def withText (text : Text) : Action → Action
  | .append _ => .append text
  | .insert _ => .insert text
  | .change _ => .change text
  | .run _ => .run text
  | action => action

/-- Goes on with the text of the last command, if that has not come to an end. -/
def continueText : Reader Unit := do
  match (← get).openText with
  | none => return ()
  | some before =>
    let text ← openedText before
    modify fun progress => { progress with
      commands := progress.commands.modify (progress.commands.size - 1) fun command =>
        { command with action := withText text command.action } }

/-- Reads fragments one after another. -/
def fragments (dialect : Regex.Dialect) : List Fragment → Reader Unit
  | [] => return ()
  | fragment :: rest => do
    modify fun progress => { progress with
      rest := fragment.text, read := 0, line := 0, file := fragment.file
      part := if fragment.file.isNone then progress.part + 1 else progress.part }
    continueText
    commands dialect (fragment.text.length + 1)
    modify ({ · with isFirst := false })
    fragments dialect rest

end Reader

/-- Reads a script from its fragments; line feeds end no lines if `isUnlined`. -/
def Script.read (dialect : Regex.Dialect) (isUnlined : Bool) (fragments : List Fragment) :
    Except Fault Script := do
  let start : Progress := ⟨[], 0, 0, none, 0, true, #[], [], [], [], false, isUnlined, none⟩
  let (_, progress) ← (Reader.fragments dialect fragments).run start
  match progress.blocks with
  | (_, fault) :: _ => throw fault
  | [] => pure ()
  let wanted := progress.commands.toList.filterMap fun command => match command.action with
    | .branch _ name => if name.isEmpty then none else some name
    | _ => none
  match wanted.find? fun name => (progress.labels.lookup name).isNone with
  | some name => throw ⟨"can't find label for jump to \x60" ++ name ++ "'", 4⟩
  | none => return ⟨progress.commands, progress.labels, progress.outputs, progress.isSilent,
      progress.part⟩

end Runbook.Shell.Editing
