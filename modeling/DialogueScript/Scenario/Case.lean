import DialogueScript.Scenario.Event

/-!
# Test cases

A test case names a script and lists the responses and the results of host calls that go into a
conversation, and the outputs that are expected.
-/

namespace DialogueScript.Scenario

/-- A test case. -/
structure Case where
  schemaVersion : Text
  script : Text
  responses : List Text
  results : List Text
  expected : List Output
  deriving DecidableEq, Repr

namespace Case

/-- The version of test cases that can be run. -/
def supportedVersion : Text := "dl-tool-case.v1".toList

/-- The script of a test case that names none. -/
def defaultScript : Text := "main.dlg".toList

/-- The texts in a field that may be missing. -/
def textsOrNone? : Option Json → Option (List Text)
  | none => some []
  | some json => json.texts?

/-- The outputs in a field that may be missing. -/
def outputsOrNone? : Option Json → Option (List Output)
  | none => some []
  | some json => do (← json.items?).mapM Output.ofJson?

/-- A test case from JSON. Everything but the version may be missing. -/
def ofJson? (json : Json) : Option Case := do
  let names := ["schemaVersion", "script", "responses", "callResults", "expectedEvents"]
  match ← json.record? names 1 with
  | [some version, script, responses, results, expected] =>
    return {
      schemaVersion := ← version.text?
      script := ← match script with
        | some script => script.text?
        | none => some defaultScript
      responses := ← textsOrNone? responses
      results := ← textsOrNone? results
      expected := ← outputsOrNone? expected }
  | _ => none

end Case

end DialogueScript.Scenario
