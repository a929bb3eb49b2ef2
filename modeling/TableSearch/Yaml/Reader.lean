import TableSearch.Yaml.Built
import TableSearch.Yaml.Document

/-!
# Reading YAML

A YAML text becomes letters, tokens, nodes and at last a value.  Whatever breaks the
notation counts before anything that a node stands for is looked at.
-/

namespace TableSearch.Yaml

/-- The value of a YAML text with one document at most.  A text without one stands for
null. -/
def read (text : String) : Except YamlError Value := do
  let letters ← orMalformed (letters? text.toList)
  match ← (TokenStream.ofLetters letters).document? with
  | none => return .null
  | some document =>
    let built := document.build
    match built.complaint with
    | some complaint => throw complaint.error
    | none => return built.value

end TableSearch.Yaml
