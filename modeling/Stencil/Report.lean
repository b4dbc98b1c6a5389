import Stencil.Report.Excerpt

/-!
# Reports

An error for people to read: its message, and the part of the source that it is about.
-/

namespace Stencil

/-- The report of an error for the source of a template. An error that lies elsewhere, or nowhere,
has only its message. -/
def report (name source : String) (error : RenderError) : String :=
  match decide (error.template? = some name), Report.locate? source error with
  | true, some (span, label) =>
      let rows := Report.excerptRows name source.toList span label
      String.join ((("Error: " ++ error.message) :: rows.map String.ofList).map (· ++ "\n"))
  | _, _ => error.message

end Stencil
