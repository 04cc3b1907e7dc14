import TypeLineage.Files.Path
import TypeLineage.Report.Basic
import TypeLineage.Text.Collation

/-! # Reports for readers

    A report as Markdown: a header, the statistics, tables of counts, the
    missing names that are mentioned most, and every finding on a line of its
    own.  The tables are in dictionary order and do not depend on the order of
    the findings, as far as findings differ in what is compared. -/

namespace TypeLineage.Markdown

/-- Text inside a cell: a bar would end the cell and is escaped. -/
def escapeCell (s : String) : String :=
  String.ofList (s.toList.flatMap fun c => if c = '|' then ['\\', '|'] else [c])

/-- A line of a table. -/
def tableRow (cells : List String) : String :=
  "| " ++ " | ".intercalate cells ++ " |"

/-- Rows of a table of counts in dictionary order of their labels. -/
def sortRows (rows : List (String × String)) : List (String × String) :=
  rows.mergeSort fun a b => (Text.collate a.1 b.1).isLE

/-- An integer in base ten. -/
def intText (n : Int) : String := String.ofList (JsonNumber.intDigits n)

/-- A table of counts, with a line for nothing if there is nothing. -/
def countTable (counts : Counts) : List String :=
  ["| Kind | Count |", "|---|---:|"]
    ++ (sortRows (Json.indicesFirst (counts.map fun (word, c) => (word, c.written)))).map
      (fun row => tableRow [row.1, row.2])
    ++ (if counts.isEmpty then [tableRow ["(none)", "0"]] else [])
    ++ [""]

/-- How often each label occurs, in the order of first occurrence. -/
def tally (labels : List String) : List (String × Int) :=
  labels.foldl (fun counts label => bump counts label) []
where
  bump (counts : List (String × Int)) (label : String) : List (String × Int) :=
    match counts with
    | [] => [(label, 1)]
    | (l, n) :: rest => if l = label then (l, n + 1) :: rest else (l, n) :: bump rest label

/-- The most rows of a table of missing names. -/
def targetLimit : Nat := 20

/-- The missing names of one relation that are mentioned most: by descending
    count, then in dictionary order. -/
def topTargets (findings : List Finding) (relation : RelationKind) : List (String × Int) :=
  let mentioned := (findings.filter (·.kind = .dangling relation)).map Finding.target
  let order := fun (a b : String × Int) =>
    decide (b.2 < a.2) || (a.2 == b.2 && (Text.collate a.1 b.1).isLE)
  ((tally mentioned).mergeSort order).take targetLimit

/-- The section on the missing names of one relation, if there are any. -/
def targetSection (findings : List Finding) (relation : RelationKind) : List String :=
  match topTargets findings relation with
  | [] => []
  | rows =>
    ["### " ++ (FindingKind.dangling relation).word, "", "| Count | Target |", "|---:|---|"]
      ++ rows.map (fun row => tableRow [intText row.2, escapeCell row.1])
      ++ [""]

/-- The section on missing names, if there are any. -/
def danglingSection (findings : List Finding) : List String :=
  if findings.any (·.kind.isDangling) then
    ["## Top dangling references", ""] ++ RelationKind.all.flatMap (targetSection findings)
  else []

/-- Findings are compared by kind, then place, then message. -/
def compareFindings (a b : Finding) : Ordering :=
  ((Text.collate a.kind.word b.kind.word).then (Text.collate a.place b.place)).then
    (Text.collate a.message b.message)

/-- Findings in the order of their table. -/
def sortFindings (findings : List Finding) : List Finding :=
  findings.mergeSort fun a b => (compareFindings a b).isLE

/-- The line of a finding. -/
def findingRow (f : Finding) : String :=
  tableRow [f.severity.word, f.kind.word, f.place, escapeCell f.message]

/-- The table of all findings. -/
def findingTable (findings : List Finding) : List String :=
  ["| Severity | Kind | Location | Message |", "|---|---|---|---|"]
    ++ (sortFindings findings).map findingRow
    ++ (if findings.isEmpty then ["| (none) | (none) |  |  |"] else [])
    ++ [""]

/-- A number in bold. -/
def bold (text : String) : String := "**" ++ text ++ "**"

/-- The lines before the first table. -/
def header (r : Report) : List String :=
  let dangling := r.findings.countP (·.kind.isDangling)
  [ "# Type index report",
    "",
    "- Tool: " ++ bold r.toolName ++ " " ++ r.toolVersion,
    "- Source root: \x60" ++ r.sourceRoot ++ "\x60",
    "- Started: " ++ r.startedAt,
    "- Finished: " ++ r.finishedAt,
    "- Files scanned: " ++ bold (Number.decimalText r.filesScanned),
    "- Facts loaded: " ++ bold (Number.decimalText r.factsLoaded),
    "- Findings: " ++ bold (Number.decimalText r.findings.length)
      ++ " (dangling: " ++ bold (Number.decimalText dangling) ++ ")",
    "" ]

/-- The table of statistics. -/
def statisticsTable (s : Statistics) : List String :=
  ["| Statistic | Count |", "|---|---:|"]
    ++ s.rows.map (fun row => tableRow [row.1, Number.decimalText row.2])
    ++ [""]

/-- The lines of a report. -/
def lines (r : Report) : List String :=
  header r
    ++ ["## Statistics", ""] ++ statisticsTable r.statistics
    ++ ["### Relations by kind", ""] ++ countTable r.relationCounts
    ++ ["## Findings summary", ""] ++ countTable (.ofWords (r.findings.map (·.kind.word)))
    ++ danglingSection r.findings
    ++ ["## All findings", ""] ++ findingTable r.findings

/-- A report as Markdown. -/
def write (r : Report) : String := "\n".intercalate (lines r)

end TypeLineage.Markdown

/-! ## Formats of reports

    A report is written as JSON where the name of its file says so, and as
    Markdown everywhere else. -/

namespace TypeLineage

/-- How a report is written. -/
inductive ReportFormat where
  | json
  | markdown
  deriving DecidableEq, Repr, Inhabited

namespace ReportFormat

/-- The short word for a format. -/
def word : ReportFormat → String
  | .json => "json"
  | .markdown => "md"

/-- The format for a file of the given name. -/
def ofPath (path : String) : ReportFormat :=
  if (Path.extension path).toLower = ".json" then .json else .markdown

end ReportFormat

/-- The text of a report in a format. -/
def Report.render (r : Report) : ReportFormat → String
  | .json => r.write
  | .markdown => Markdown.write r

end TypeLineage
