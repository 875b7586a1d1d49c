import TenantOverlay.Text.Blank
import TenantOverlay.Text.Digits
import TenantOverlay.Text.Split

/-!
# Log levels

Which messages are shown is written as a list of directives with commas between them: a level for
all messages, or a level for those of one source. `LogFilter.shows` says whether the notices of the
operator are among them.
-/

namespace TenantOverlay.LogFilter

/-- The source of the operator's messages. -/
def ownSource : String := "flannel_operator"

/-- The number of a level, higher for more messages. -/
def level? (s : String) : Option Nat :=
  match s.toLower with
  | "off" => some 0
  | "error" => some 1
  | "warn" => some 2
  | "info" => some 3
  | "debug" => some 4
  | "trace" => some 5
  | _ => (Text.natural? s.toList).filter (· ≤ 5)

/-- The level of notices. -/
def noticeLevel : Nat := 3

/-- A level for the messages whose source starts with a text. -/
structure Directive where
  source : String
  level : Nat
  deriving DecidableEq, Repr

/-- A source without a level shows everything. -/
def directive? (s : String) : Option Directive :=
  match level? s with
  | some l => some ⟨"", l⟩
  | none =>
    match Text.cut '=' s.toList with
    | some (source, level) => (level? (String.ofList level)).map fun l => ⟨String.ofList source, l⟩
    | none =>
      if s.toList.all fun c => c.isAlphanum || c == '_' || c == ':' || c == '-' then some ⟨s, 5⟩
      else none

def texts (s : String) : List String :=
  ((Text.splitOn ',' s.toList).filter (!·.isEmpty)).map String.ofList

/-- The level for the operator's messages: of the directives for its source the one with the longest
text counts, and of several such ones the last. Without any, only errors are shown. -/
def ownLevel (directives : List Directive) : Nat :=
  let own := directives.filter fun d =>
    (Text.dropPrefix? d.source.toList ownSource.toList).isSome
  ((own.foldl (fun (best : Option Directive) d => match best with
    | some b => if b.source.length ≤ d.source.length then some d else some b
    | none => some d) none).map (·.level)).getD (if directives.isEmpty then 1 else 0)

/-- Whether notices are shown under a configured level, in which directives that cannot be read are
skipped. -/
def shows (configured : String) : Bool :=
  noticeLevel ≤ ownLevel ((texts configured).filterMap directive?)

end TenantOverlay.LogFilter
