import Runbook.Text.Numeral

/-!
# Permissions

Permissions are twelve bits: three for the owner of a file, three for its group and three for all
others, which stand for reading, writing and running, and above them one more for each. A mode says
in words how permissions change: it is a list of clauses between commas, each of which names users
and then adds, takes away or sets permissions. `Permissions.readWords?` reads it as a list of
`Amendment`s.
-/

namespace Runbook.Shell

/-- The users whose permissions are kept apart. -/
inductive User where
  | owner
  | group
  | others

/-- The bits behind those of a user. -/
def User.shift : User → Nat
  | .owner => 6
  | .group => 3
  | .others => 0

/-- The bit above all others that belongs to a user. -/
def User.special : User → Nat
  | .owner => 2048
  | .group => 1024
  | .others => 512

/-- What is done with permissions. -/
inductive Deed where
  | add
  | remove
  | set

/-- The deed of a sign. -/
def Deed.ofChar? : Char → Option Deed
  | '+' => some .add
  | '-' => some .remove
  | '=' => some .set
  | _ => none

/-- A change of the permissions of some users. -/
structure Amendment where
  users : List User
  /-- Whether the users were not named, so that the bits that new files are not given stay. -/
  isMasked : Bool
  deed : Deed
  /-- What is added, taken away or set, by letters. -/
  letters : Text
  /-- What is added, taken away or set for all users, by a number. -/
  number : Option Nat := none

namespace Permissions

/-- The three bits of a user. -/
def ofUser (permissions : Nat) (user : User) : Nat := permissions / Nat.pow 2 user.shift % 8

/-- Whether anyone may run the file. -/
def letRun (permissions : Nat) : Bool :=
  [User.owner, .group, .others].any fun user => ofUser permissions user % 2 = 1

/-- The users that letters name. -/
def usersOf (letters : Text) : List User :=
  let all : List (Char × User) := [('u', .owner), ('g', .group), ('o', .others)]
  let named := all.filter fun (letter, _) => letters.elem letter || letters.elem 'a'
  (if letters.isEmpty then all else named).map (·.2)

/-- The bits of a user that a letter means: a kind of permission, that of running if anyone had it
before, what a user has now, or the bit above. -/
def bitsOf (before now : Nat) (user : User) (letter : Char) : Nat :=
  let shifted (bits : Nat) : Nat := bits * Nat.pow 2 user.shift
  match letter, user with
  | 'r', _ => shifted 4
  | 'w', _ => shifted 2
  | 'x', _ => shifted 1
  | 'X', _ => if letRun before then shifted 1 else 0
  | 'u', _ => shifted (ofUser now .owner)
  | 'g', _ => shifted (ofUser now .group)
  | 'o', _ => shifted (ofUser now .others)
  | 's', .owner | 's', .group | 't', .others => user.special
  | _, _ => 0

/-- Permissions after an amendment; `before` are those before the first one, and `mask` those that
new files are not given. -/
def amend (mask before now : Nat) (amendment : Amendment) : Nat :=
  let kept := if amendment.isMasked then 4095 - mask else 4095
  let done (own bits permissions : Nat) : Nat := match amendment.deed with
    | .add => permissions ||| bits
    | .remove => permissions - (permissions &&& bits)
    | .set => permissions - (permissions &&& own) ||| bits
  match amendment.number with
  | some bits => done 4095 bits now
  | none => amendment.users.foldl (fun permissions user =>
    let bits := amendment.letters.foldl
      (fun bits letter => bits ||| bitsOf before now user letter) 0
    done (7 * Nat.pow 2 user.shift + user.special) (bits &&& kept) permissions) now

/-- Permissions after amendments. -/
def amendAll (mask : Nat) (amendments : List Amendment) (permissions : Nat) : Nat :=
  amendments.foldl (amend mask permissions) permissions

/-- Reads one more character behind the users of a clause, given what has been read, last first. -/
def readSign (users : List User) (isMasked : Bool) (read : List Amendment) (c : Char) :
    Option (List Amendment) :=
  match Deed.ofChar? c, read with
  | some deed, read => some (⟨users, isMasked, deed, [], none⟩ :: read)
  | none, last :: read =>
    if ("rwxXstugo" : Text).elem c then some ({ last with letters := c :: last.letters } :: read)
    else none
  | none, [] => none

/-- Reads a clause. -/
def readClause? (text : Text) : Option (List Amendment) := do
  let letters := text.takeWhile fun c => ("ugoa" : Text).elem c
  let read ← (text.drop letters.length).foldlM (readSign (usersOf letters) letters.isEmpty) []
  if read.isEmpty then none
  return read.reverse

/-- Reads a mode in words. -/
def readWords? (text : Text) : Option (List Amendment) :=
  ((Text.pieces ',' text).mapM readClause?).map List.flatten

/-- The permissions that digits stand for. -/
def readDigits? (text : Text) : Option Nat :=
  let permissions := Text.numeralValueIn 8 text
  if !text.isEmpty && (text.all fun c => '0' ≤ c && c ≤ '7') && permissions < 4096 then
    some permissions
  else none

/-- Reads a clause of the mode of a file, which may be a number behind a sign. -/
def readFileClause? (text : Text) : Option (List Amendment) :=
  match text with
  | sign :: digits => match Deed.ofChar? sign, readDigits? digits with
    | some deed, some permissions => some [⟨[], false, deed, [], some permissions⟩]
    | _, _ => readClause? text
  | [] => none

/-- The permissions that a mode in digits or in words makes of others, given those that new files
are not given. -/
def readMode? (text : Text) : Option (Nat → Nat → Nat) :=
  match readDigits? text with
  | some permissions => some fun _ _ => permissions
  | none => (((Text.pieces ',' text).mapM readFileClause?).map List.flatten).map
      fun amendments mask => amendAll mask amendments

/-- Permissions as letters. -/
def letters (permissions : Nat) : Text :=
  [User.owner, .group, .others].flatMap fun user =>
    let bits := ofUser permissions user
    let isSpecial := permissions / user.special % 2 = 1
    let runs := bits % 2 = 1
    let mark : Char := match user with
      | .others => 't'
      | _ => 's'
    [if bits / 4 = 1 then 'r' else '-', if bits / 2 % 2 = 1 then 'w' else '-',
      if isSpecial then (if runs then mark else mark.toUpper) else if runs then 'x' else '-']

/-- Permissions as four digits. -/
def digits (permissions : Nat) : Text :=
  let digits := Nat.toDigits 8 permissions
  List.replicate (4 - digits.length) '0' ++ digits

end Permissions

end Runbook.Shell
