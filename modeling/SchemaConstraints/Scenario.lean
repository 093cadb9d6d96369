import SchemaConstraints.Site
import SchemaConstraints.Value.Text

set_option autoImplicit false

/-! # Scenarios

A scenario decorates one element and runs a series of values through it, each of which is expected to pass
or to fail a certain check. -/

namespace SchemaConstraints

/-- A value and the verdict that is expected of it. -/
structure ScenarioStep where
  value : Value
  expected : Verdict

/-- Directives on one element and the values to try. -/
structure Scenario where
  name : String
  element : SchemaElement
  directives : List (String × Json)
  bindings : Bindings := []
  steps : List ScenarioStep := []

/-- Why a scenario failed. -/
inductive ScenarioError where
  /-- The directives were rejected. -/
  | setup (scenario : String) (cause : DirectiveError)
  /-- The step of this number had another verdict than expected. -/
  | mismatch (scenario : String) (number : Nat) (value : Value) (expected actual : Verdict)

namespace ScenarioError

/-- The name of a verdict. -/
def verdictName : Verdict → String
  | some check => check.name
  | none => "success"

/-- The wording of a failure. -/
def message : ScenarioError → String
  | setup scenario cause => "[" ++ scenario ++ "] registry setup failed: " ++ cause.message
  | mismatch scenario number value expected actual =>
    "[" ++ scenario ++ "] step " ++ toString number ++ " (" ++ value.text ++ "): expected " ++
      verdictName expected ++ ", got " ++ verdictName actual

/-- What caused a failure, if it has a cause of its own. -/
def cause? : ScenarioError → Option DirectiveError
  | setup _ cause => some cause
  | mismatch .. => none

end ScenarioError

namespace Scenario

/-- Try steps in order, numbering them from `number` on. -/
def tryFrom (scenario : Scenario) (site : Site) (number : Nat) :
    List ScenarioStep → Except ScenarioError Unit
  | [] => .ok ()
  | step :: steps =>
    let actual := site.verdict scenario.bindings step.value
    if actual = step.expected then tryFrom scenario site (number + 1) steps
    else .error (.mismatch scenario.name number step.value step.expected actual)

/-- Run a scenario under a registry. -/
def run (scenario : Scenario) (registry : Registry) : Except ScenarioError Unit :=
  match registry.site scenario.element scenario.directives with
  | .error cause => .error (.setup scenario.name cause)
  | .ok site => scenario.tryFrom site 1 scenario.steps

end Scenario

end SchemaConstraints
