import Runbook.Text.Basic

/-!
# Shell scripts

A script is what the shell does: simple commands, and ways to put them together. Its words are made
of pieces, which are only worth something when the script runs: texts, values of variables, outputs
of other scripts, and results of calculations. A piece may stand between double quotes, and then its
value is neither split into fields nor matched against names of files.
-/

namespace Runbook.Shell

/-- What is done about a variable without a value. -/
inductive Fallback where
  /-- Another word is used in its place. -/
  | substitute
  /-- Another word is used in its place and assigned to it. -/
  | assign
  /-- The shell stops, with another word as its message. -/
  | stop
  /-- The other way round: another word is used in place of a variable that has a value. -/
  | alternative

/-- How a file is opened for a redirection. -/
inductive RedirectKind where
  | input
  | output
  /-- As `output`, but a file that exists is overwritten in any case. -/
  | overwrite
  | append
  | both
  /-- The descriptor is a copy of another one. -/
  | duplicate
  /-- The word itself is what is read. -/
  | document
  /-- A document that has not been read yet, by its number. If it never is, it is empty. -/
  | promised (number : Nat)

mutual

/-- A piece of a word. -/
inductive Piece where
  /-- Characters without quotes. -/
  | plain (text : Text)
  /-- Characters between quotes or after a backslash, of which there may be none. -/
  | quoted (text : Text)
  /-- The home directory of a user; that of the shell's own user has no name. -/
  | home (user : Text)
  | variable (quotes : Bool) (name : Text) (form : Form)
  | output (quotes : Bool) (script : Script)
  | arithmetic (quotes : Bool) (expression : List Piece)

/-- What is taken of a variable. -/
inductive Form where
  | value
  | length
  /-- The value, or what is done without one; an empty value counts as none if `orEmpty`. -/
  | fallback (kind : Fallback) (orEmpty : Bool) (word : List Piece)
  /-- The value and then a word. -/
  | followed (word : List Piece)
  /-- The value without a start or an end that a pattern matches. -/
  | trim (atEnd longest : Bool) (pattern : List Piece)
  /-- Something that means nothing, which is only noticed when the word is worked out. -/
  | unknown

/-- A change of one descriptor. -/
inductive Redirect where
  | mk (descriptor : Nat) (kind : RedirectKind) (target : List Piece)

/-- A script. -/
inductive Script where
  | simple (line : Nat) (assignments : List (Text × List Piece)) (words : List (List Piece))
      (redirects : List Redirect)
  | pipeline (negated : Bool) (parts : List Script)
  | andThen (first second : Script)
  | orElse (first second : Script)
  | sequence (first second : Script)
  | background (script : Script)
  | subshell (script : Script)
  | redirected (line : Nat) (script : Script) (redirects : List Redirect)
  | branch (condition yes no : Script)
  | loop (untilTrue : Bool) (condition body : Script)
  | each (line : Nat) (name : Text) (words : Option (List (List Piece))) (body : Script)
  | choose (line : Nat) (word : List Piece) (arms : List (List (List Piece) × Script))
  | define (name : Text) (body : Script)
  | nothing

end

/-- A script and what is run after it, if there is anything. -/
def Script.followedBy (first : Script) : Script → Script
  | .nothing => first
  | second => .sequence first second

/-- A word: its pieces in order. -/
abbrev Word := List Piece

/-! ## Documents -/

/-- The redirection with its document, if that has been read. -/
def Redirect.withDocuments (documents : List (Nat × Word)) : Redirect → Redirect
  | .mk descriptor (.promised number) target =>
    match documents.lookup number with
    | some word => .mk descriptor .document word
    | none => .mk descriptor (.promised number) target
  | redirect => redirect

mutual

/-- The script with the documents that have been read for its redirections. The scripts within words
have documents of their own. -/
def Script.withDocuments (documents : List (Nat × Word)) : Script → Script
  | .simple line assignments words redirects =>
    .simple line assignments words (redirects.map (·.withDocuments documents))
  | .pipeline negated parts => .pipeline negated (withDocumentsEach documents parts)
  | .andThen first second =>
    .andThen (first.withDocuments documents) (second.withDocuments documents)
  | .orElse first second =>
    .orElse (first.withDocuments documents) (second.withDocuments documents)
  | .sequence first second =>
    .sequence (first.withDocuments documents) (second.withDocuments documents)
  | .background script => .background (script.withDocuments documents)
  | .subshell script => .subshell (script.withDocuments documents)
  | .redirected line script redirects =>
    .redirected line (script.withDocuments documents) (redirects.map (·.withDocuments documents))
  | .branch condition yes no =>
    .branch (condition.withDocuments documents) (yes.withDocuments documents)
      (no.withDocuments documents)
  | .loop untilTrue condition body =>
    .loop untilTrue (condition.withDocuments documents) (body.withDocuments documents)
  | .each line name words body => .each line name words (body.withDocuments documents)
  | .choose line word arms => .choose line word (withDocumentsArms documents arms)
  | .define name body => .define name (body.withDocuments documents)
  | .nothing => .nothing

/-- Scripts with the documents that have been read for their redirections. -/
def Script.withDocumentsEach (documents : List (Nat × Word)) : List Script → List Script
  | [] => []
  | script :: rest => script.withDocuments documents :: withDocumentsEach documents rest

/-- The arms of a choice with the documents that have been read for their redirections. -/
def Script.withDocumentsArms (documents : List (Nat × Word)) :
    List (List Word × Script) → List (List Word × Script)
  | [] => []
  | (patterns, body) :: rest =>
    (patterns, body.withDocuments documents) :: withDocumentsArms documents rest

end

end Runbook.Shell
