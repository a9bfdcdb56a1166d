import AccessControl.Decision.Basic
import AccessControl.Document.JsonText
import AccessControl.Report.Table

/-! Reports of decisions: for a screen, and as documents. -/

namespace AccessControl

/-- A decision with the type of its rules and the matcher it is shown with. -/
structure Report where
  decision : Decision
  ptype : String
  matcher : String
deriving Repr

namespace Report

/-- The upper-case word for a verdict. -/
def verdictTitle : Effect → String
  | .allow => "ALLOW"
  | .deny => "DENY"
  | .indeterminate => "INDETERMINATE"

/-- Whether a rule is matched, in a word. -/
def matchWord (outcome : Outcome) : String :=
  if outcome.error.isSome then "error" else if outcome.isMatched then "yes" else "no"

/-- The cells of an outcome. -/
def cells (report : Report) (outcome : Outcome) : List String := [
  report.ptype ++ "[" ++ intText outcome.index ++ "]",
  ", ".intercalate outcome.rule,
  matchWord outcome,
  if outcome.isMatched then outcome.effect.word else "-"]

/-- The table of the outcomes. -/
def table (report : Report) : Table where
  columns := [⟨"Row", .right⟩, ⟨"Rule", .left⟩, ⟨"Match", .centre⟩, ⟨"Effect", .centre⟩]
  rows := report.decision.outcomes.map report.cells

/-- The lines of the outcomes. -/
def outcomeLines (report : Report) : List (List Char) :=
  if report.decision.outcomes.isEmpty then Text.screenLines "No policy rows evaluated"
  else report.table.lines

/-- The rule that the decision rests on; an empty one is none. -/
def decidingRule? (report : Report) : Option Rule :=
  report.decision.decidedBy.filter fun rule => !rule.isEmpty

/-- The lines of the report. -/
def lines (report : Report) : List (List Char) :=
  let matcherLines :=
    if report.matcher == "" then [] else Text.screenLines ("Matcher: " ++ report.matcher)
  let ruleLines := match report.decidingRule? with
    | some rule => Text.screenLines ("Decided by: " ++ ", ".intercalate rule)
    | none => []
  [[], "Gatekeeper Decision".toList, List.replicate 70 '━'] ++
    Text.screenLines ("Request: " ++ ", ".intercalate (report.decision.request.map Value.asText)) ++
    matcherLines ++ [[]] ++ report.outcomeLines ++ [[]] ++
    Text.screenLines ("Decision: " ++ verdictTitle report.decision.verdict) ++
    ruleLines ++ [[]]

/-- The report for a screen. -/
def text (report : Report) : String :=
  String.ofList (report.lines.flatMap fun line => line ++ ['\n'])

/-- The report as a document. -/
def document (report : Report) : Value :=
  let texts (row : List String) : Value := .list (row.map .text)
  .dict [
    ("request", .list report.decision.request),
    ("allowed", .flag report.decision.isAllowed),
    ("result", .text report.decision.verdict.word),
    ("matched_rule", (report.decidingRule?.map texts).getD .null),
    ("explain", texts report.decision.trace)]

/-- The report as JSON; `step` is how many blanks each level adds, and without one all is on one
line. -/
def json (step : Option Nat) (report : Report) : Except Error String :=
  Document.jsonText step 0 report.document

end Report

end AccessControl
