import VulkanBindings.Report.Counts
import VulkanBindings.Text.Number

/-!
# The summary of a run

What is shown after a header has been written.  A row tells how its entities
divide only if some of them are under a guard.
-/

namespace VulkanBindings.Report

open Text (grouped padEnd padStart)

/-- A file that has been written. -/
structure WrittenFile where
  /-- The name in its directory. -/
  filename : String
  /-- The absolute path. -/
  path : String
  /-- The number of newlines in it. -/
  lineCount : Int
  byteCount : Int

/-- What a summary tells. -/
structure Summary where
  sourceLabel : String
  outputPath : String
  counts : Counts
  file : WrittenFile

/-- The width of the column of labels. -/
def labelWidth : Nat := 17

/-- The width of the column of totals. -/
def totalWidth : Nat := 6

/-- The row of a category. -/
def countRow (label : String) (count : Count) : String :=
  let row := "    " ++ padEnd labelWidth label ++ padStart totalWidth (toString count.total)
  if count.guarded > 0 then
    row ++ s!"  ({count.plain} unguarded + {count.guarded} guarded)"
  else
    row

/-- The rows of all categories. -/
def countRows (counts : Counts) : List String :=
  [countRow "Enums:" counts.enums,
   countRow "Flags:" counts.flags,
   countRow "Scalars:" counts.scalars,
   countRow "Handles:" counts.handles,
   countRow "Structs:" counts.structs,
   countRow "Unions:" counts.unions,
   countRow "Free functions:" counts.commands,
   countRow "Handle methods:" counts.methods]

namespace Summary

/-- The lines of a summary. -/
def lines (summary : Summary) : List String :=
  ["Vulkan C++ bindings generated:",
   "",
   s!"  Source:     {summary.sourceLabel}",
   s!"  Output:     {summary.outputPath}",
   "",
   "  Entities generated:"] ++
  countRows summary.counts ++
  ["",
   s!"  Written: {summary.file.filename} ({grouped summary.file.lineCount} lines, " ++
     s!"{grouped summary.file.byteCount} bytes)"]

/-- The text of a summary: its lines, each ended by a newline. -/
def text (summary : Summary) : String :=
  "\n".intercalate summary.lines ++ "\n"

end Summary

end VulkanBindings.Report
