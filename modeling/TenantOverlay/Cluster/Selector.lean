import TenantOverlay.Kubernetes.Normal
import TenantOverlay.Text.Blank
import TenantOverlay.Text.Split

/-!
# Label selectors

A selector is a list of terms with commas between them: a label's name, or a name and a value that
the label must have (`=` or `==`) or must not have (`!=`). Empty terms say nothing.
-/

namespace TenantOverlay

/-- One condition of a selector. -/
inductive SelectorTerm where
  | present (name : String)
  | equal (name value : String)
  | different (name value : String)
  deriving DecidableEq, Repr

namespace SelectorTerm

def holds (labels : Labels) : SelectorTerm → Bool
  | present name => labels.contains name
  | equal name value => labels.get? name == some value
  | different name value => labels.get? name != some value

/-- What stands before and after the first `!=`. -/
def cutDifferent : List Char → Option (List Char × List Char)
  | [] => none
  | [_] => none
  | a :: b :: r =>
    if a = '!' ∧ b = '=' then some ([], r)
    else (cutDifferent (b :: r)).map fun (x, y) => (a :: x, y)

def trimmed (cs : List Char) : String := String.ofList (Text.trimBy Text.isBlank cs)

/-- Reads a term that is not empty and has no blanks at its ends. -/
def parse (cs : List Char) : SelectorTerm :=
  match cutDifferent cs with
  | some (name, value) => different (trimmed name) (trimmed value)
  | none =>
    match Text.cut '=' cs with
    | some (name, value) => equal (trimmed name) (trimmed (value.dropWhile (· == '=')))
    | none => present (String.ofList cs)

end SelectorTerm

namespace Selector

/-- The terms of a selector. -/
def terms (selector : String) : List SelectorTerm :=
  (((Text.splitOn ',' selector.toList).map (Text.trimBy Text.isBlank)).filter (!·.isEmpty)).map
    SelectorTerm.parse

/-- Whether labels satisfy every term. -/
def selects (selector : String) (labels : Labels) : Bool :=
  (terms selector).all (·.holds labels)

end Selector

end TenantOverlay
