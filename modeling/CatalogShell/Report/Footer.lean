import CatalogShell.Report.Firing

/-!
# Footers

What a description says below the table of columns. A section that is `none` or empty is not
shown. `Footer.blocks` lists what is shown, as headings with lines, in the order of display.
-/

namespace CatalogShell

/-- The sections below the table of columns. -/
structure Footer where
  indexSummary : Option String := none
  indexes : List String := []
  checkConstraints : List String := []
  foreignKeys : List String := []
  referencedBy : List String := []
  viewDefinition : Option String := none
  rules : FiringGroups := {}
  triggers : FiringGroups := {}
  partitionOf : List String := []
  partitionConstraints : List String := []
  partitionKey : Option String := none
  partitions : List String := []
  partitionsSummary : Option String := none
  inherits : List String := []
  childTables : List String := []
  childTablesSummary : Option String := none
  typedTableOf : Option String := none
  options : Option String := none
  server : Option String := none
  fdwOptions : Option String := none
  ownedBy : Option String := none
deriving DecidableEq, Repr, Inhabited

/-- A heading and the lines under it. -/
structure Block where
  heading : String
  lines : List String
deriving DecidableEq, Repr

namespace Footer

/-- A list under a heading, unless it is empty. -/
def listBlock (heading : String) (lines : List String) : List Block :=
  if lines.isEmpty then [] else [⟨heading, lines⟩]

/-- A text under a heading, if there is one. -/
def textBlock (heading : String) (text : Option String) : List Block :=
  listBlock heading text.toList

/-- The four groups of a kind of entry under their headings. -/
def firingBlocks (enabled disabled always replica : String) (g : FiringGroups) : List Block :=
  listBlock enabled g.enabled ++ listBlock disabled g.disabled ++ listBlock always g.always ++
    listBlock replica g.replica

/-- The sections that are shown, in the order of display. -/
def blocks (f : Footer) : List Block :=
  textBlock "Index" f.indexSummary ++
  textBlock "Owned by" f.ownedBy ++
  textBlock "View definition" f.viewDefinition ++
  listBlock "Partition of" f.partitionOf ++
  listBlock "Partition constraint" f.partitionConstraints ++
  textBlock "Partition key" f.partitionKey ++
  listBlock "Indexes" f.indexes ++
  listBlock "Check constraints" f.checkConstraints ++
  listBlock "Foreign-key constraints" f.foreignKeys ++
  listBlock "Referenced by" f.referencedBy ++
  firingBlocks "Rules" "Disabled rules" "Rules firing always" "Rules firing on replica only"
    f.rules ++
  firingBlocks "Triggers" "Disabled triggers" "Triggers firing always"
    "Triggers firing on replica only" f.triggers ++
  textBlock "Server" f.server ++
  textBlock "FDW options" f.fdwOptions ++
  listBlock "Inherits" f.inherits ++
  listBlock "Partitions" f.partitions ++
  textBlock "Partitions" f.partitionsSummary ++
  listBlock "Child tables" f.childTables ++
  textBlock "Child tables" f.childTablesSummary ++
  textBlock "Typed table of type" f.typedTableOf ++
  textBlock "Options" f.options

/-- The headings of the sections that are shown. -/
def headings (f : Footer) : List String := f.blocks.map Block.heading

end Footer

end CatalogShell
