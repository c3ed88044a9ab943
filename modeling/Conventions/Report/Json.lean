import Conventions.Finding

/-!
# Reports as JSON

All findings as one list, indented.
-/

namespace Conventions.Report

/-- The findings as JSON text. -/
def json (findings : List Finding) : String :=
  (Json.array (findings.map Finding.toJson)).indented ++ "\n"

end Conventions.Report
