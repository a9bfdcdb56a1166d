import AccessControl.Regex.Node

/-! Alternatives in their simplest form: what they all start with stands before them, and
alternatives of one character each are one set. -/

namespace AccessControl.Regex

/-- The two expressions are the same, and simple enough for that to be seen. -/
def Node.isSame : Node → Node → Bool
  | .one a, .one b => a == b
  | .place a _, .place b _ => a == b
  | .reference a _ _, .reference b _ _ => a == b
  | _, _ => false

/-- The expression that all alternatives start with. -/
def commonStart (alternatives : List (List Node)) : Option Node :=
  match alternatives with
  | (first :: _) :: rest =>
    if rest.all fun nodes => nodes.head?.any first.isSame then some first else none
  | _ => none

/-- What all alternatives start with, and what is left of each. -/
def splitStart : Nat → List (List Node) → List Node × List (List Node)
  | 0, alternatives => ([], alternatives)
  | fuel + 1, alternatives =>
    match commonStart alternatives with
    | none => ([], alternatives)
    | some node =>
      let (start, rest) := splitStart fuel (alternatives.map List.tail)
      (node :: start, rest)

/-- The members of the set that an alternative of one character stands for. -/
def setOf? (alternative : List Node) : Option (List Member) :=
  match alternative with
  | [.one (.point false n _)] => some [.point n]
  | [.one (.set false members _)] => some members
  | _ => none

/-- The sequence that several alternatives stand for. -/
def joinAlternatives (casing : Casing) (alternatives : List (List Node)) : List Node :=
  match alternatives with
  | [only] => only
  | _ =>
    -- The start that is common ends with the first alternative at the latest.
    let (start, rest) := splitStart ((alternatives.headD []).length) alternatives
    match rest.mapM setOf? with
    | some members => start ++ [.one (CharTest.ofMembers false members.flatten casing)]
    | none => start ++ [Node.ofBranches (rest.map Node.ofList)]

end AccessControl.Regex
