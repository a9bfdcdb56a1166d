import AccessControl.Regex.Escape
import AccessControl.Regex.Repetition
import AccessControl.Regex.Group
import AccessControl.Regex.Alternatives

/-! Regular expressions read from their written form, and the texts that are not one. -/

namespace AccessControl.Regex

/-- A character that a spaced pattern passes over. -/
def isSpacing (c : Char) : Bool :=
  c == ' ' || (0x09 ≤ c.toNat && c.toNat ≤ 0x0d)

mutual

/-- Alternatives up to a closing parenthesis or the end, as one sequence. -/
def alternatives : Nat → Options → Bool → Read (List Node)
  | 0, _, _ => refuse
  | fuel + 1, options, top => do
    let first := sequenceOf (← items fuel options top [])
    let whole := (← get).options
    let options := if top then whole else options
    let others ← if ← accept '|' then moreAlternatives fuel options else pure []
    return joinAlternatives options.casing (first :: others)

/-- The alternatives after the first. -/
def moreAlternatives : Nat → Options → Read (List (List Node))
  | 0, _ => refuse
  | fuel + 1, options => do
    let first := sequenceOf (← items fuel options false [])
    if ← accept '|' then return first :: (← moreAlternatives fuel options)
    else return [first]

/-- The items of one alternative in reverse, after those already found. -/
def items : Nat → Options → Bool → List Item → Read (List Item)
  | 0, _, _, _ => refuse
  | fuel + 1, options, top, found => do
    match ← peek with
    | none => return found
    | some (.plain '|') | some (.plain ')') => return found
    | some mark =>
      let _ ← next
      match mark with
      | .broken => refuse
      | .escaped c => items fuel options top (.single (← escapeNode options c) :: found)
      | .plain c =>
        if options.spaced && isSpacing c then items fuel options top found
        else if options.spaced && c == '#' then
          let _ ← skipPast '\n' (fuel + 1)
          items fuel options top found
        else
          match c with
          | '[' =>
            let negated ← accept '^'
            let members ← setMembers (fuel + 1) []
            items fuel options top (.single (setNode options negated members) :: found)
          | '?' => items fuel options top (← repeatLast options 0 (some 1) found)
          | '*' => items fuel options top (← repeatLast options 0 none found)
          | '+' => items fuel options top (← repeatLast options 1 none found)
          | '{' =>
            let literal := Item.single (pointNode options '{'.toNat)
            if (← peek) == some (.plain '}') then items fuel options top (literal :: found)
            else
              match ← bracedBounds (fuel + 1) with
              | none => items fuel options top (literal :: found)
              | some (least, most) =>
                items fuel options top (← repeatLast options least most found)
          | '.' => items fuel options top (.single (.one (.any options.dotAll)) :: found)
          | '^' =>
            let place := if options.multiline then Place.lineStart else .textStart
            items fuel options top (.single (.place place options.ascii) :: found)
          | '$' =>
            let place := if options.multiline then Place.lineEnd else .lastLineEnd
            items fuel options top (.single (.place place options.ascii) :: found)
          | '(' =>
            match ← parenthesis fuel options top found.isEmpty with
            | some nodes => items fuel options top (⟨.other, nodes⟩ :: found)
            | none => do
              let whole := (← get).options
              items fuel (if top then whole else options) top found
          | _ => items fuel options top (.single (pointNode options c.toNat) :: found)

/-- What an opening parenthesis starts; a comment and options of the whole are no item. -/
def parenthesis : Nat → Options → Bool → Bool → Read (Option (List Node))
  | 0, _, _, _ => refuse
  | fuel + 1, options, top, isFirst => do
    if !(← accept '?') then return some [← capture fuel options none]
    match ← next with
    | some (.plain 'P') =>
      if ← accept '<' then
        let name ← takeUntil '>' (fuel + 1) []
        if !Text.isIdentifier name then refuse
        return some [← capture fuel options (some name)]
      else if ← accept '=' then
        let name ← takeUntil ')' (fuel + 1) []
        if !Text.isIdentifier name then refuse
        return some [← referenceTo options (← groupNamed name)]
      else refuse
    | some (.plain ':') => return some (← enclosed fuel options)
    | some (.plain '#') => if ← skipPast ')' (fuel + 1) then return none else refuse
    | some (.plain '=') => return some [.look none false (Node.ofList (← enclosed fuel options))]
    | some (.plain '!') => return some [.look none true (Node.ofList (← enclosed fuel options))]
    | some (.plain '<') => do
      let negated ← isNegatedLook
      let outer := (← get).behind
      modify fun progress =>
        { progress with behind := some (outer.getD progress.groups.length) }
      let body := Node.ofList (← alternatives fuel options false)
      modify fun progress => { progress with behind := outer }
      demand ')'
      -- What lies behind must have one width, which is asked once the whole has been read.
      if body.fixedWidth?.isNone then doom
      return some [.look (some body.width.least) negated body]
    | some (.plain '(') =>
      let index ← choiceGroup (fuel + 1)
      let present ← items fuel options false []
      let absent ← if ← accept '|' then items fuel options false [] else pure []
      if (← peek) == some (.plain '|') then refuse
      demand ')'
      return some
        [.choice index (Node.ofList (sequenceOf present)) (Node.ofList (sequenceOf absent))]
    | some (.plain '>') => return some [.atomic (Node.ofList (← enclosed fuel options))]
    | some (.plain c) =>
      if c != '-' && (Options.ofLetter? c).isNone then refuse
      match ← groupOptions (fuel + 1) c with
      | none => if top && isFirst then return none else refuse
      | some (added, removed) =>
        return some [Node.ofList (← enclosed fuel (options.inside added removed))]
    | _ => refuse

/-- Alternatives and the parenthesis that closes them. -/
def enclosed : Nat → Options → Read (List Node)
  | 0, _ => refuse
  | fuel + 1, options => do
    let body ← alternatives fuel options false
    demand ')'
    return body

/-- A group that remembers what it matched. -/
def capture : Nat → Options → Option (List Char) → Read Node
  | 0, _, _ => refuse
  | fuel + 1, options, name => do
    let index ← openGroup name
    let body := Node.ofList (← enclosed fuel options)
    closeGroup index body
    return .group index body

end

/-- A regular expression, with whether its classes of characters are those of ASCII throughout. -/
structure Expression where
  node : Node
  ascii : Bool
deriving Repr

/-- The regular expression that a text is the written form of. -/
def read (pattern : List Char) : Except Fault Expression := do
  let start : Progress :=
    { rest := marks pattern, groups := [], names := [], behind := none, asked := 0,
      options := Options.none, doomed := false }
  let whole : Read Expression := do
    goOn start.rest
    let nodes ← alternatives (6 * pattern.length + 6) Options.none true
    let progress ← get
    if progress.options.ascii && progress.options.unicode then throw .bothAlphabets
    if !progress.rest.isEmpty || progress.groups.length < progress.asked then refuse
    if progress.doomed then refuse
    return ⟨Node.ofList nodes, progress.options.ascii⟩
  let (expression, _) ← whole.run start
  return expression

end AccessControl.Regex
