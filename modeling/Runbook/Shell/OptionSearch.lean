import Runbook.Shell.Environment

/-!
# Searching arguments for options

`OptionPlace.search` finds the next option among arguments, given how far they have been searched.
Which letters are options is said by a text in which a colon behind a letter demands a value for it.
A colon at the start of that text asks for silence about what is wrong.
-/

namespace Runbook.Shell

/-- What the search for an option has come to. -/
structure OptionFound where
  /-- The letter, a question mark in place of one that is wrong, or a colon if a value is missing
  and that is to be kept silent. -/
  letter : Char
  /-- The value of the option, or the letter that is wrong. -/
  value : Option Text
  complaint : Option Text
  place : OptionPlace
  /-- Whether there was an option at all. -/
  isOption : Bool

/-- What follows a letter in the text that says which letters are options. -/
def wantedBehind? (letter : Char) : Text → Option Text
  | [] => none
  | c :: rest =>
    if c = letter then some rest
    else match rest with
      | ':' :: rest => wantedBehind? letter rest
      | rest => wantedBehind? letter rest

namespace OptionPlace

/-- What is left of the argument that the search is in, if it is in the middle of one. -/
def unfinished (place : OptionPlace) (arguments : List Text) : Text :=
  match place.done, place.next with
  | some done, n + 2 => ((arguments[n]?).getD []).drop done
  | _, _ => []

/-- Finds the option whose letter is at the start of a text; `next` is the number of the argument
behind the one that the text is the end of. -/
def searchIn (wanted : Text) (arguments : List Text) (next : Nat) : Text → OptionFound
  | [] => ⟨'?', none, none, ⟨next, none⟩, false⟩
  | letter :: more =>
    let isSilent : Bool := wanted.head? = some ':'
    let whole := ((arguments[next - 2]?).getD []).length
    let inside : OptionPlace := ⟨next, some (whole - more.length)⟩
    let wrong (mark : Char) (complaint : Text) (place : OptionPlace) : OptionFound :=
      if isSilent then ⟨mark, some [letter], none, place, true⟩
      else ⟨'?', none, some (complaint ++ ['\n']), place, true⟩
    match wantedBehind? letter wanted with
    | none => wrong '?' ("Illegal option -" ++ [letter]) inside
    | some (':' :: _) =>
      if !more.isEmpty then ⟨letter, some more, none, ⟨next, none⟩, true⟩
      else match arguments[next - 1]? with
        | some value => ⟨letter, some value, none, ⟨next + 1, none⟩, true⟩
        | none => wrong ':' ("No arg for -" ++ [letter] ++ " option") ⟨next, none⟩
    | some _ => ⟨letter, some [], none, inside, true⟩

/-- Finds the next option. -/
def search (wanted : Text) (arguments : List Text) (place : OptionPlace) : OptionFound :=
  let place := if arguments.length + 1 < place.next then start else place
  match place.unfinished arguments with
  | c :: rest => searchIn wanted arguments place.next (c :: rest)
  | [] =>
    match arguments[place.next - 1]? with
    | some ['-', '-'] => ⟨'?', none, none, ⟨place.next + 1, none⟩, false⟩
    | some ('-' :: c :: rest) => searchIn wanted arguments (place.next + 1) (c :: rest)
    | _ => ⟨'?', none, none, ⟨place.next, none⟩, false⟩

end OptionPlace

end Runbook.Shell
