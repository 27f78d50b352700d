import Runbook.Text.Basic

/-!
# Regular expressions

`Regex.ways` says in which ways an expression matches from a `Spot` in a text on. The ways come in
the order of preference: an earlier alternative comes before a later one, and one more repetition
before none. Of ways that lead to the same spot only the first counts, unless the expression refers
back to what its groups have taken.

`Regex.find?` gives the leftmost match in a text, of several that start there the longest, and of
several ways to that the preferred one, which settles what the groups have taken.
-/

namespace Runbook.Shell

/-- A place between two characters at which an expression may demand to be. -/
inductive Anchor where
  | textStart
  | textEnd
  | lineStart
  | lineEnd
  | wordStart
  | wordEnd
  /-- Either end of a word. -/
  | wordEdge
  | noWordEdge

/-- A regular expression. -/
inductive Regex where
  | empty
  /-- A character in one of the ranges, or in none of them if `negated`. -/
  | oneOf (negated ignoreCase : Bool) (ranges : List (Char × Char))
  | at (anchor : Anchor)
  | both (first second : Regex)
  | either (first second : Regex)
  | repeated (part : Regex) (least : Nat) (most : Option Nat)
  /-- A part whose text is kept under a number. -/
  | group (number : Nat) (part : Regex)
  /-- The text that a group has taken last. -/
  | again (number : Nat) (ignoreCase : Bool)

/-- A spot in a text: how many characters are before it, the last of them, and those behind it. -/
structure Spot where
  offset : Nat
  before : Option Char
  rest : Text

/-- The spot at the start of a text. -/
def Spot.start (text : Text) : Spot := ⟨0, none, text⟩

/-- The spot behind the next character. -/
def Spot.next (spot : Spot) : Spot :=
  match spot.rest with
  | [] => spot
  | c :: rest => ⟨spot.offset + 1, some c, rest⟩

/-- The spot behind the next `n` characters. -/
def Spot.skip : Nat → Spot → Spot
  | 0, spot => spot
  | n + 1, spot => skip n spot.next

/-- The text from one spot to a later one. -/
def Spot.upTo (spot later : Spot) : Text := spot.rest.take (later.offset - spot.offset)

/-- Whether a character belongs to a word. -/
def isWordChar (c : Char) : Bool := c.isAlphanum || c == '_'

/-- Whether a spot is behind a character of a word. -/
def Spot.isAfterWord (spot : Spot) : Bool := (spot.before.map isWordChar).getD false

/-- Whether a spot is before a character of a word. -/
def Spot.isBeforeWord (spot : Spot) : Bool := (spot.rest.head?.map isWordChar).getD false

/-- Whether a spot is where an anchor demands. -/
def Anchor.holds (spot : Spot) : Anchor → Bool
  | .textStart => spot.before.isNone
  | .textEnd => spot.rest.isEmpty
  | .lineStart => spot.before.isNone || spot.before = some '\n'
  | .lineEnd => spot.rest.isEmpty || spot.rest.head? = some '\n'
  | .wordStart => !spot.isAfterWord && spot.isBeforeWord
  | .wordEnd => spot.isAfterWord && !spot.isBeforeWord
  | .wordEdge => spot.isAfterWord != spot.isBeforeWord
  | .noWordEdge => spot.isAfterWord == spot.isBeforeWord

/-- A way in which something matches: the spot that it leads to, and what the groups have taken. -/
structure Way where
  spot : Spot
  groups : List (Nat × Text)

/-- The way on which a group has taken a text. -/
def Way.keep (way : Way) (number : Nat) (text : Text) : Way :=
  { way with groups := (number, text) :: way.groups.filter (·.1 ≠ number) }

/-- Whether two ways go on alike: they lead to the same spot, and have the same groups if those are
of interest. -/
def Way.isLike (exact : Bool) (a b : Way) : Bool :=
  a.spot.offset == b.spot.offset && (!exact || a.groups == b.groups)

/-- The first of any ways that go on alike. -/
def distinct (exact : Bool) : List Way → List Way
  | [] => []
  | way :: rest => way :: (distinct exact rest).filter (!way.isLike exact ·)

/-- The ways to go on through at most `most` characters that `accepts` holds of, the longest first,
and behind them the `shorter` ones. -/
def characterWays (accepts : Char → Bool) (shorter : List Way) (way : Way) :
    Option Nat → Text → List Way
  | some 0, _ => way :: shorter
  | _, [] => way :: shorter
  | most, c :: rest =>
    if accepts c then
      characterWays accepts (way :: shorter)
        { way with spot := ⟨way.spot.offset + 1, some c, rest⟩ } (most.map (· - 1)) rest
    else way :: shorter

/-- A stage of a repetition: where it is, and how many turns it still has to take and may take. -/
structure Stage where
  way : Way
  least : Nat
  most : Option Nat

/-- Whether a stage was met before. -/
def Stage.isMet (exact : Bool) (stage : Stage) (met : List Stage) : Bool :=
  met.any fun other =>
    other.way.isLike exact stage.way && other.least = stage.least && other.most = stage.most

/-- Goes on with a repetition in all possible ways, of each stage only once: the stages that were
met, and the ways out, both with the last one first. A turn that takes nothing counts if it has to
be taken or if it is the first. -/
def repeatedly (exact : Bool) (turn : Way → List Way) :
    Nat → Bool → Stage → List Stage × List Way → List Stage × List Way
  | 0, _, _, found => found
  | bound + 1, isFirst, stage, found =>
    if stage.isMet exact found.1 then found
    else
      let found := (stage :: found.1, found.2)
      let next (found : List Stage × List Way) (way : Way) : List Stage × List Way :=
        if stage.least = 0 && way.spot.offset = stage.way.spot.offset then
          (found.1, if isFirst then way :: found.2 else found.2)
        else
          repeatedly exact turn bound false
            ⟨way, stage.least - 1, stage.most.map (· - 1)⟩ found
      let found := if stage.most = some 0 then found else (turn stage.way).foldl next found
      if stage.least = 0 then (found.1, stage.way :: found.2) else found

/-- Whether a character is in one of the ranges, or in none of them if `negated`. -/
def inRanges (negated ignoreCase : Bool) (ranges : List (Char × Char)) (c : Char) : Bool :=
  let isIn (c : Char) : Bool := ranges.any fun (a, b) => a ≤ c && c ≤ b
  negated != (isIn c || ignoreCase && (isIn c.toLower || isIn c.toUpper))

/-- Whether two texts are equal, perhaps up to the case of letters. -/
def sameText (ignoreCase : Bool) (a b : Text) : Bool :=
  if ignoreCase then a.map Char.toLower == b.map Char.toLower else a == b

namespace Regex

/-- One expression and then another. -/
def andThen (first second : Regex) : Regex :=
  match first, second with
  | .empty, second => second
  | first, .empty => first
  | first, second => .both first second

/-- The expression of a text. -/
def ofText (ignoreCase : Bool) (text : Text) : Regex :=
  text.foldr (fun c rest => (Regex.oneOf false ignoreCase [(c, c)]).andThen rest) .empty

/-- Whether an expression refers back to its groups. -/
def refersBack : Regex → Bool
  | .again _ _ => true
  | .both first second | .either first second => first.refersBack || second.refersBack
  | .repeated part _ _ | .group _ part => part.refersBack
  | .empty | .oneOf _ _ _ | .at _ => false

/-- The ways in which an expression matches after a way has been gone. -/
def ways (exact : Bool) : Regex → Way → List Way
  | .empty, way => [way]
  | .oneOf negated ignoreCase ranges, way =>
    match way.spot.rest with
    | [] => []
    | c :: _ =>
      if inRanges negated ignoreCase ranges c then [{ way with spot := way.spot.next }] else []
  | .at anchor, way => if anchor.holds way.spot then [way] else []
  | .both first second, way => distinct exact ((ways exact first way).flatMap (ways exact second))
  | .either first second, way => distinct exact (ways exact first way ++ ways exact second way)
  | .group number part, way =>
    (ways exact part way).map fun after => after.keep number (way.spot.upTo after.spot)
  | .again number ignoreCase, way =>
    match way.groups.lookup number with
    | none => []
    | some text =>
      if sameText ignoreCase text (way.spot.rest.take text.length) then
        [{ way with spot := way.spot.skip text.length }]
      else []
  | .repeated (.oneOf negated ignoreCase ranges) least most, way =>
    let all := characterWays (inRanges negated ignoreCase ranges) [] way most way.spot.rest
    all.filter fun after => way.spot.offset + least ≤ after.spot.offset
  | .repeated part least most, way =>
    let bound := way.spot.rest.length + least + 2
    let (_, found) := repeatedly exact (ways exact part) bound true ⟨way, least, most⟩ ([], [])
    distinct exact found.reverse

/-! ## Searching -/

/-- The way that leads farthest, and of several the first. -/
def farthest (ways : List Way) : Option Way :=
  ways.foldl (fun best way =>
    match best with
    | some other => if other.spot.offset < way.spot.offset then some way else best
    | none => some way) none

/-- A match: the text before it, itself, the spot behind it, and what the groups have taken. -/
structure Found where
  before : Text
  text : Text
  spot : Spot
  groups : List (Nat × Text)

/-- The first match from a place in a text on whose end `accepts` holds of, given the spot at its
start. The place is described by a number of characters and the last of them. -/
def searchFrom (regex : Regex) (exact : Bool) (accepts : Spot → Spot → Bool) (offset : Nat)
    (before : Option Char) : Text → Option Found
  | [] =>
    let spot : Spot := ⟨offset, before, []⟩
    (farthest ((regex.ways exact ⟨spot, []⟩).filter (accepts spot ·.spot))).map fun way =>
      ⟨[], [], way.spot, way.groups⟩
  | c :: rest =>
    let spot : Spot := ⟨offset, before, c :: rest⟩
    match farthest ((regex.ways exact ⟨spot, []⟩).filter (accepts spot ·.spot)) with
    | some way => some ⟨[], spot.upTo way.spot, way.spot, way.groups⟩
    | none =>
      (searchFrom regex exact accepts (offset + 1) (some c) rest).map fun found =>
        { found with before := c :: found.before }

/-- The first match from a spot on between spots of which `accepts` holds. -/
def findWhere (regex : Regex) (accepts : Spot → Spot → Bool) (spot : Spot) : Option Found :=
  regex.searchFrom regex.refersBack accepts spot.offset spot.before spot.rest

/-- The first match from a spot on. -/
def findFrom (regex : Regex) (spot : Spot) : Option Found := regex.findWhere (fun _ _ => true) spot

/-- The first match in a text. -/
def find? (regex : Regex) (text : Text) : Option Found := regex.findFrom (.start text)

/-- The longest match at the start of a text. -/
def matchStart? (regex : Regex) (text : Text) : Option Found :=
  let spot := Spot.start text
  (farthest (regex.ways regex.refersBack ⟨spot, []⟩)).map fun way =>
    ⟨[], spot.upTo way.spot, way.spot, way.groups⟩

end Regex

end Runbook.Shell
