/-!
Glob patterns over whole texts. `?` stands for one character, `*` for any run of characters, `[…]`
and `[!…]` for one character inside or outside a class, and a component `**` for any number of
`/`-separated components.
-/

namespace DependencyDiagram.Glob

inductive Fault where
  | badClass (position : Nat)
  | stars (position : Nat)
  | component (position : Nat)
deriving DecidableEq, Repr

def Fault.message : Fault → String
  | .badClass position => s!"Pattern syntax error near position {position}: invalid range pattern"
  | .stars position =>
    s!"Pattern syntax error near position {position}: " ++
      "wildcards are either regular `*` or recursive `**`"
  | .component position =>
    s!"Pattern syntax error near position {position}: " ++
      "recursive wildcards must form a single path component"

/-- A range of code points, both ends included. -/
structure Range where
  first : Char
  last : Char
deriving DecidableEq, Repr

inductive Token where
  | literal (c : Char)
  | anyOne
  | oneOf (ranges : List Range)
  | noneOf (ranges : List Range)
  | anyRun
  | components
deriving DecidableEq, Repr

def inRanges (ranges : List Range) (c : Char) : Bool :=
  ranges.any fun range => range.first ≤ c && c ≤ range.last

/-- The ranges of a class; a hyphen at either end stands for itself. -/
def classRanges : List Char → List Range
  | first :: '-' :: last :: rest => ⟨first, last⟩ :: classRanges rest
  | c :: rest => ⟨c, c⟩ :: classRanges rest
  | [] => []

/-- What stands before and after the next closing bracket. -/
def splitAtBracket (text : List Char) : Option (List Char × List Char) :=
  match text.dropWhile (· != ']') with
  | [] => none
  | _ :: after => some (text.takeWhile (· != ']'), after)

/-- A class whose opening bracket has been read, with what follows it. Its first character may be a
closing bracket. -/
def readClass : List Char → Option (Token × List Char)
  | '!' :: first :: more =>
    (splitAtBracket more).map
      fun (inside, after) => (.noneOf (classRanges (first :: inside)), after)
  | first :: more =>
    if first = '!' then none
    else (splitAtBracket more).map
      fun (inside, after) => (.oneOf (classRanges (first :: inside)), after)
  | [] => none

/-- The tokens of the rest of a pattern. `before` is the character in front of it and `position`
the number of characters; every step reads one of them, so their number is fuel enough. -/
def tokensFrom : Nat → Option Char → Nat → List Char → Except Fault (List Token)
  | 0, _, _, _ => .ok []
  | _, _, _, [] => .ok []
  | fuel + 1, before, position, c :: rest =>
    match c with
    | '?' => (tokensFrom fuel (some c) (position + 1) rest).map (.anyOne :: ·)
    | '*' =>
      let stars := 1 + (rest.takeWhile (· == '*')).length
      let after := rest.drop (stars - 1)
      if stars = 1 then (tokensFrom fuel (some c) (position + 1) rest).map (.anyRun :: ·)
      else if 2 < stars then .error (.stars (position + 2))
      else if position ≠ 0 ∧ before ≠ some '/' then .error (.component (position - 1))
      else
        match after with
        | [] => .ok [.components]
        | next :: after =>
          if next = '/' then
            (tokensFrom fuel (some next) (position + 3) after).map (.components :: ·)
          else .error (.component (position + 2))
    | '[' =>
      match readClass rest with
      | some (token, after) =>
        let position := position + 1 + (rest.length - after.length)
        (tokensFrom fuel (some ']') position after).map (token :: ·)
      | none => .error (.badClass position)
    | c => (tokensFrom fuel (some c) (position + 1) rest).map (.literal c :: ·)

structure Pattern where
  tokens : List Token
deriving DecidableEq, Repr

def Pattern.compile (text : String) : Except Fault Pattern :=
  (tokensFrom text.toList.length none 0 text.toList).map Pattern.mk

/-- Whether a continuation accepts some end of the text. -/
def someSuffix (accepts : List Char → Bool) : List Char → Bool
  | [] => accepts []
  | c :: rest => accepts (c :: rest) || someSuffix accepts rest

/-- Whether a continuation accepts the end of the text or what follows some `/`. -/
def someComponent (accepts : List Char → Bool) : List Char → Bool
  | [] => accepts []
  | c :: rest => (c == '/' && accepts rest) || someComponent accepts rest

def oneThen (test : Char → Bool) (accepts : List Char → Bool) : List Char → Bool
  | [] => false
  | c :: rest => test c && accepts rest

def accepts : List Token → List Char → Bool
  | [] => List.isEmpty
  | .literal expected :: tokens => oneThen (· == expected) (accepts tokens)
  | .anyOne :: tokens => oneThen (fun _ => true) (accepts tokens)
  | .oneOf ranges :: tokens => oneThen (inRanges ranges) (accepts tokens)
  | .noneOf ranges :: tokens => oneThen (fun c => !inRanges ranges c) (accepts tokens)
  | .anyRun :: tokens => someSuffix (accepts tokens)
  | .components :: tokens => fun text => accepts tokens text || someComponent (accepts tokens) text

def Pattern.matches (pattern : Pattern) (text : String) : Bool :=
  accepts pattern.tokens text.toList

/-- The texts a pattern matches, all of them without one. -/
def select (pattern : Option Pattern) (texts : List String) : List String :=
  match pattern with
  | some pattern => texts.filter pattern.matches
  | none => texts

end DependencyDiagram.Glob
