import Preflight.CommandLine.Arguments
import Preflight.Json.Printer
import Preflight.PlanSummary
import Preflight.Text.Grid
import Preflight.Yaml.Printer

/-!
# Reports

What the commands print: the summary of a plan and the list of machine sizes, for reading or as a
document in JSON or YAML.
-/

namespace Preflight

namespace CommandLine

/-- A document in a format; the text format falls back on JSON. -/
def renderDocument (format : OutputFormat) (document : Json) : String :=
  match format with
  | .yaml => Yaml.render document
  | .text | .json => document.pretty ++ "\n"

/-! ## Plans -/

/-- A line, or nothing. -/
def lineIf (shown : Bool) (line : String) : List String := if shown then [line] else []

/-- The grid of the process groups of a plan. -/
def groupGrid (groups : List GroupSummary) : String :=
  Grid.render (["GROUP", "MACHINES", "MOUNT", "RESERVABLE"] :: groups.map fun g =>
    [g.name, toString g.machines, g.mount.getD "-", toString g.reservable])

/-- The summary of a plan for reading. -/
def summaryText (s : PlanSummary) : String :=
  let lines :=
    ["✓ Preflight passed (release " ++ s.releaseId ++ " v" ++ toString s.releaseVersion ++ ")",
      "  App:        " ++ s.app,
      "  Image:      " ++ s.image ++ " (" ++ s.imageSource.render ++ ")",
      "  Strategy:   " ++ s.strategy.name]
    ++ (s.guest.map fun g => "  Guest:      " ++ g.render).toList
    ++ ["  Timeouts:   wait " ++ s.waitTimeout ++ ", lease " ++ s.leaseTimeout
      ++ " (renew every " ++ s.leaseDelayBetween ++ ")"]
    ++ lineIf s.firstDeploy "  First deploy"
    ++ lineIf s.restartOnly "  Restart only"
    ++ lineIf s.skipHealthChecks "  Health checks skipped"
    ++ (s.releaseCommandMachine.map fun m => "  Release command machine: " ++ m).toList
    ++ [groupGrid s.groups]
  String.join (lines.map (· ++ "\n"))

/-- The summary of a plan in a format. -/
def renderSummary (format : OutputFormat) (s : PlanSummary) : String :=
  match format with
  | .text => summaryText s
  | format => renderDocument format (encode s)

/-! ## Machine sizes -/

/-- A machine size with what it stands for. -/
structure SizeRow where
  name : String
  spec : GuestSpec
  deriving DecidableEq, Repr

/-- The row of every size that can be asked for. -/
def sizeRows : List SizeRow :=
  GuestSpec.presetNames.filterMap fun name =>
    (GuestSpec.ofSize name).toOption.map fun spec => ⟨name, spec⟩

/-- A row as a document. -/
def SizeRow.document (row : SizeRow) : Json :=
  .record [("name", encode row.name), ("cpu_kind", encode row.spec.cpuKind),
    ("cpus", encode row.spec.cpus), ("memory_mb", encode row.spec.memory)]

/-- A row as cells of a grid. -/
def SizeRow.cells (row : SizeRow) : List String :=
  [row.name, row.spec.cpuKind.name, toString row.spec.cpus, toString row.spec.memory]

/-- The machine sizes in a format. -/
def renderSizes (format : OutputFormat) : String :=
  match format with
  | .text =>
    Grid.render (["SIZE", "CPU KIND", "CPUS", "MEMORY (MB)"] :: sizeRows.map SizeRow.cells)
      ++ "\n"
  | format => renderDocument format (.list (sizeRows.map SizeRow.document))

end CommandLine

end Preflight
