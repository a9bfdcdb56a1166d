import AccessControl.Pattern.Basic

/-! Glob patterns: stars, question marks and bracketed classes. -/

namespace AccessControl

/-- Which characters of a glob are special. -/
structure GlobStyle where
  -- A star and a question mark do not stand for slashes, and two stars do.
  segments : Bool
  -- Brackets enclose a class.
  classes : Bool
deriving Repr, DecidableEq

/-- The ranges written between brackets; a hyphen that ends the class stands for itself. -/
def classRanges : List Char → Option (List (Char × Char))
  | [] => some []
  | [a] => some [(a, a)]
  | [a, b] => some [(a, a), (b, b)]
  | a :: '-' :: b :: rest => if b < a then none else (classRanges rest).map ((a, b) :: ·)
  | a :: b :: rest => (classRanges (b :: rest)).map ((a, a) :: ·)

/-- The class written between brackets; an exclamation mark first negates it, and it is not
empty. -/
def classOf (body : List Char) : Option CharSet :=
  let (negated, body) := match body with
    | '!' :: rest => (true, rest)
    | _ => (false, body)
  if body.isEmpty then none else (classRanges body).map (.listed negated)

/-- The set of characters that a star or a question mark stands for. -/
def GlobStyle.set (style : GlobStyle) : CharSet :=
  if style.segments then .withinSegment else .withinLine

/-- The pieces of a glob; a bracket that is not closed and a class without meaning give none. -/
def Pattern.ofGlob (style : GlobStyle) : Option (List Char) → List Char → Option Pattern
  | some _, [] => none
  | some body, c :: rest =>
    if c == ']' then
      match classOf body.reverse with
      | some set => (ofGlob style none rest).map (.one set :: ·)
      | none => none
    else ofGlob style (some (c :: body)) rest
  | none, [] => some []
  | none, '*' :: '*' :: rest =>
    if style.segments then (ofGlob style none rest).map (.run .withinLine :: ·)
    else (ofGlob style none ('*' :: rest)).map (.run style.set :: ·)
  | none, c :: rest =>
    if c == '*' then (ofGlob style none rest).map (.run style.set :: ·)
    else if c == '?' then (ofGlob style none rest).map (.one style.set :: ·)
    else if c == '[' && style.classes then ofGlob style (some []) rest
    else (ofGlob style none rest).map (.exact c :: ·)

/-- The key fits a glob of the given style. -/
def matchesGlob (style : GlobStyle) (key glob : List Char) : Bool :=
  match Pattern.ofGlob style none glob with
  | some pattern => pattern.accepts key
  | none => false

/-! ### Wildcards

Patterns in which a star stands for any characters at all are matched by a search that takes nothing
back but what the latest star stands for. -/

/-- Searches on behind the latest star, if there is one. The pattern and the key are what was left
of both there, and so many of their first characters agree. -/
def wildcardSearch (starred : Bool) (pattern key : List Char) (agreed : Nat) : Bool :=
  if onward : agreed < key.length then
    if star : pattern[agreed]? = some '*' then
      wildcardSearch true (pattern.drop (agreed + 1)) (key.drop agreed) 0
    else if pattern[agreed]? = key[agreed]? then wildcardSearch starred pattern key (agreed + 1)
    -- The latest star takes one character more, and what agreed behind it is read again.
    else if starred then wildcardSearch true pattern key.tail 0
    else false
  else (pattern.drop agreed).all (· == '*')
termination_by (pattern.length, key.length, key.length - agreed)
decreasing_by
  · have inside : agreed < pattern.length := (List.getElem?_eq_some_iff.mp star).1
    exact Prod.Lex.left _ _ (by simp only [List.length_drop]; omega)
  · exact Prod.Lex.right _ (Prod.Lex.right _ (by omega))
  · exact Prod.Lex.right _ (Prod.Lex.left _ _ (by simp only [List.length_tail]; omega))

/-- The key fits a pattern in which stars stand for any characters at all. -/
def matchesWildcards (key pattern : List Char) : Bool :=
  wildcardSearch false pattern key 0

end AccessControl
