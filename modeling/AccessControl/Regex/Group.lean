import AccessControl.Regex.Progress
import AccessControl.Decimal.Reading
import AccessControl.Text.Identifier

/-! The names, numbers and options of groups. -/

namespace AccessControl.Regex

/-- The number of the group of a name. -/
def groupNamed (name : List Char) : Read Nat := do
  match ((← get).names.find? fun entry => entry.1 == String.ofList name).map (·.2) with
  | some index => return index
  | none => refuse

/-- A new group, open until it is complete. -/
def openGroup (name : Option (List Char)) : Read Nat := do
  let progress ← get
  let index := progress.groups.length + 1
  let names ← match name with
    | none => pure progress.names
    | some cs =>
      let word := String.ofList cs
      if progress.names.any fun entry => entry.1 == word then refuse
      else pure ((word, index) :: progress.names)
  set { progress with groups := progress.groups ++ [none], names := names }
  return index

/-- The group is complete and has the width of its body. -/
def closeGroup (index : Nat) (body : Node) : Read Unit :=
  modify fun progress =>
    { progress with groups := progress.groups.set (index - 1) (some body.width) }

/-- Letters of options up to a mark that ends them, which is returned too. -/
def optionLetters (isSet : Bool) : Nat → Char → Options → Read (Options × Char)
  | 0, _, _ => refuse
  | fuel + 1, c, found => do
    match Options.ofLetter? c with
    | none => refuse
    | some option =>
      let found := found.union option
      if option.choosesAlphabet && (!isSet || (found.ascii && found.unicode)) then refuse
      match ← next with
      | some (.plain stop) =>
        if stop == ':' || (isSet && (stop == ')' || stop == '-')) then return (found, stop)
        else optionLetters isSet fuel stop found
      | _ => refuse

/-- The options of a group: those set and those unset, or none of either for the whole pattern. -/
def groupOptions (fuel : Nat) (c : Char) : Read (Option (Options × Options)) := do
  let (added, stop) ←
    if c == '-' then pure (Options.none, '-') else optionLetters true fuel c Options.none
  if stop == ')' then
    modify fun progress => { progress with options := progress.options.union added }
    return none
  if added.template then refuse
  let removed ←
    if stop == '-' then
      match ← next with
      | some (.plain c) => pure (← optionLetters false fuel c Options.none).1
      | _ => refuse
    else pure Options.none
  if removed.template then refuse
  let both := added.without (added.without removed)
  if both != Options.none then refuse
  return some (added, removed)

/-- The group that a choice asks for, by name or by number. -/
def choiceGroup (fuel : Nat) : Read Nat := do
  let name ← takeUntil ')' fuel []
  let index ←
    if Text.isIdentifier name then groupNamed name
    else
      match Decimal.readWhole name with
      | .value n => if 0 < n && n < 1073741823 then pure n.toNat else refuse
      | _ => refuse
  let progress ← get
  match progress.behind with
  | none => pure ()
  | some count =>
    match progress.groups[index - 1]? with
    | some (some _) => if count < index then refuse
    | _ => refuse
  if !Text.isIdentifier name then
    modify fun progress => { progress with asked := max progress.asked index }
  return index

/-- Whether what lies behind must not match, by the mark that says so. -/
def isNegatedLook : Read Bool := do
  if ← accept '=' then return false
  else if ← accept '!' then return true
  else refuse

end AccessControl.Regex
