import BudgetRules.Proofs.Disk.Changes
import BudgetRules.Proofs.Script.Steps

/-!
# Steps on a tree of files

Directories are made where nothing stood.  So what stands in the place of a path is spared, and a file that has been
written to beside it spares that place too:

    Grows paths d d' → d.Grown d'                                                                 (grown_of_grows)
    ReflTransGen (Writes target) d d' → Spared path d d'                                         (spared_of_writes)
-/

namespace BudgetRules.Disk

open Relation (ReflTransGen)
open Script

variable {d d' : Disk} {path target : String}

theorem grown_of_grows {paths : List String} (h : Grows paths d d') : d.Grown d' := by
  induction h with
  | refl => exact .refl d
  | tail _ hstep ih =>
    obtain ⟨path, -, q, -, hm⟩ := hstep
    exact ih.trans (grown_makeDir hm)

/-- Writing to a file spares the place of a path that every single writing to it spares. -/
theorem spared_of_writes
    (hspared : ∀ {d d' : Disk} {bytes : ByteArray}, d.write target bytes = .ok d' → Spared path d d')
    (h : ReflTransGen (Writes target) d d') : Spared path d d' := by
  induction h with
  | refl => exact .refl path d
  | tail _ hstep ih =>
    obtain ⟨bytes, hw⟩ := hstep
    exact ih.trans (hspared hw)

end BudgetRules.Disk
