import PropTyper.Edit.Plan
import PropTyper.Reading.Analysis

/-! # Reading what edits depend on

Beyond the analysis, a plan asks only whether and how the file brings in modules.
-/

namespace PropTyper.Analysis

def importActs (root : Node) (settings : Settings) : List Act :=
  if settings.autoImport then
    let imported := root.readImport Declaration.moduleName
    imported.acts ++
      if imported.value.isNone && !root.statements.isEmpty then root.readModuleStyle.acts else []
  else []

def readPlan (a : Analysis) (root : Node) (settings : Settings) (data : List UInt8) :
    Reading (List Edit) :=
  ⟨importActs root settings, a.plan root settings data⟩

end PropTyper.Analysis
