import AssetFlow.Run.Config
import AssetFlow.Template.Render

/-!
# Templates of assets

The SQL of an asset is a template that is rendered with what a run knows of its window of data.

## Main definitions

- `RunConfig.renderSql`: the SQL of an asset in a run.
-/

namespace AssetFlow

open Template

/-- What the templates of a run know of it. -/
def RunConfig.variables (c : RunConfig) : List (String × Datum) :=
  [("start_date", .ofString c.startDate.showDay), ("end_date", .ofString c.endDate.showDay),
    ("start_datetime", .ofString c.startDate.isoStamp),
    ("end_datetime", .ofString c.endDate.isoStamp),
    ("environment", .ofString (c.environment.getD "")), ("full_refresh", .bool c.fullRefresh)]

/-- The SQL of an asset in a run. -/
def RunConfig.renderSql (c : RunConfig) (sql : String) : Except TemplateError String :=
  render c.variables sql

end AssetFlow
