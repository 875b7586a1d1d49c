import TenantOverlay.Decimal.Shortest
import TenantOverlay.Metrics.Registry
import TenantOverlay.Web.Message

/-!
# The metrics page

Counts are shown to a monitoring system as lines of text: for each family its help and kind, then a
line for each of its series. `MetricsPage.respond` answers the requests to the metrics server.
-/

namespace TenantOverlay

namespace MetricsPage

/-- The kinds of families. -/
inductive FamilyKind where
  | counter
  | gauge
  deriving DecidableEq, Repr

def FamilyKind.text : FamilyKind → String
  | counter => "counter"
  | gauge => "gauge"

/-- The series of one name, each with its labels and its value. -/
structure Family where
  name : String
  help : String
  kind : FamilyKind := .counter
  series : List (List (String × String) × Nat)
  deriving DecidableEq, Repr

/-- A text in which the backslash and the line end, and in a value also the quote, are escaped. -/
def escape (quote : Bool) (s : String) : List Char :=
  s.toList.flatMap fun c =>
    if c = '\\' then ['\\', '\\']
    else if c = '\n' then ['\\', 'n']
    else if c = '"' ∧ quote then ['\\', '"']
    else [c]

/-- The labels of a series in braces; without labels there are none. -/
def labelText (labels : List (String × String)) : List Char :=
  if labels.isEmpty then [] else
  '{' :: (List.intercalate [','] (labels.map fun l =>
    l.1.toList ++ '=' :: '"' :: (escape true l.2 ++ ['"']))) ++ ['}']

/-- The value of a series, as the binary64 number nearest to it. -/
def valueText (n : Nat) : List Char := Decimal.plain n.toFloat.toBits

namespace Family

/-- The lines of a family. -/
def lines (f : Family) : List (List Char) :=
  let help := if f.help = "" then [] else
    ["# HELP ".toList ++ f.name.toList ++ ' ' :: escape false f.help]
  help ++ ("# TYPE ".toList ++ f.name.toList ++ ' ' :: f.kind.text.toList) ::
    f.series.map fun s => f.name.toList ++ labelText s.1 ++ ' ' :: valueText s.2

end Family

/-- Label values in order, so that a family's series have one order. -/
def seriesLe (a b : List (String × String) × Nat) : Bool :=
  !(b.1.map (·.2)).lex (a.1.map (·.2)) fun x y => (compare x y).isLT

/-- The page of some families: by name, each with its series by label values; a family without
series is left out. -/
def render (families : List Family) : String :=
  let shown := (families.filter fun f => !f.series.isEmpty).mergeSort fun a b => a.name ≤ b.name
  String.ofList <| shown.flatMap fun f =>
    ({ f with series := f.series.mergeSort seriesLe } : Family).lines.flatMap (· ++ ['\n'])

/-- The format of the page. -/
def contentType : String := "text/plain; version=0.0.4"

/-- An answer of the metrics server. -/
structure Response where
  status : Nat
  contentType : Option String := none
  body : String
  deriving DecidableEq, Repr

/-- Answers a request: the page itself, and whether the server is alive. -/
def respond (families : List Family) (method path : String) : Response :=
  if method = Web.Method.get.name ∧ path = "/metrics" then
    { status := 200, contentType := some contentType, body := render families }
  else if method = Web.Method.get.name ∧ path = "/healthz" then { status := 200, body := "ok" }
  else { status := 404, body := "not found" }

end MetricsPage

namespace Registry

/-- The series of a collector. -/
def seriesOf (r : Registry) (c : Collector) : List (List (String × String) × Nat) :=
  r.values.filterMap fun v => if v.1.collector = c then some (v.1.labels, v.2) else none

/-- The counts in a registry. How long operations took is not among them. -/
def families (r : Registry) : List MetricsPage.Family :=
  (r.collectors.filter (· != .durations)).map fun c =>
    ⟨c.name, c.help, if c = .versions then .gauge else .counter, r.seriesOf c⟩

end Registry

end TenantOverlay
