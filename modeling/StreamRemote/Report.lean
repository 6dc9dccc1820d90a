import StreamRemote.Text.Split

/-!
# Reports of failures

A failure is told with its causes, each the cause of the one before. The causes are numbered if
there are several. Lines after the first of a cause stand below its beginning.
-/

namespace StreamRemote

/-- A failure and what led to it, the nearest cause first. -/
structure Report where
  message : String
  causes : List String
deriving DecidableEq, Repr

namespace Report

/-- The failure and all its causes. -/
def chain (report : Report) : List String :=
  report.message :: report.causes

/-- Fills a text up with blanks in front to a width. -/
def padLeft (width : Nat) (s : String) : String :=
  String.ofList (List.replicate (width - s.length) ' ') ++ s

/-- Puts a mark in front of the first line of a text, and `indent` in front of the others. -/
def hang (mark indent s : String) : String :=
  mark ++
    String.intercalate ("\n" ++ indent) ((Text.splitAtEach '\n' s.toList).map String.ofList)

/-- The causes, each from a new line on. -/
def renderCauses : List String → String
  | [] => ""
  | [cause] => "\n" ++ hang "    " "    " cause
  | causes =>
    String.join <| causes.zipIdx.map fun (cause, n) =>
      "\n" ++ hang (padLeft 5 (toString n) ++ ": ") "       " cause

/-- The text of a report. -/
def render (report : Report) : String :=
  "Error: " ++ report.message ++
    if report.causes = [] then "" else "\n\nCaused by:" ++ renderCauses report.causes

end Report

end StreamRemote
