import BudgetRules.Proofs.Except
import BudgetRules.Proofs.LinkedDisk.Replaced
import BudgetRules.Proofs.Store.Interrupted

/-!
# A store among links

However far saving or deleting has got, and whatever the machine has refused on the way, the path of the store shows
the file as it was or all of the new rules, and the latter only if nothing has failed:

    Reaches (s.save rule, h) (t, h') → s.AllOrNothing h (upsert · rule) t h'.disk
    Reaches (s.delete id, h) (t, h') → s.AllOrNothing h (without · id) t h'.disk         (save_delete_allOrNothing)

There are two exceptions.  A path that climbs out of a missing directory can come to show a file that stood there all
along (`LinkedDisk.Uncovered`).  And if the file beside is tangled up with the store's own, because one of them is a
link to the other or both lead to one file, what is written beside goes to the file itself (`FileStore.WroteThrough`).
-/

namespace BudgetRules

open Relation (ReflTransGen TransGen)
open Script

namespace LinkedDisk

variable {d d' : LinkedDisk} {path other : String}

theorem grown_of_grows {paths : List String} (h : Grows paths d d') : d.Grown d' := by
  induction h with
  | refl => exact .refl d
  | tail _ hstep ih =>
    obtain ⟨path, -, q, -, hm⟩ := hstep
    exact ih.trans (grown_makeDir hm)

theorem sameAt_of_writes (ht : ¬d.Tangled path other) (h : ReflTransGen (Writes other) d d') :
    d.SameAt path d' ∧ ¬d'.Tangled path other := by
  induction h with
  | refl => exact ⟨.refl d path, ht⟩
  | tail _ hstep ih =>
    obtain ⟨bytes, hw⟩ := hstep
    exact ⟨ih.1.trans (sameAt_of_write ih.2 hw), not_tangled_of_write ih.2 hw⟩

end LinkedDisk

namespace FileStore

open LinkedDisk (Kept)

variable {s : FileStore} {paths : List String} {rules : List Rule} {d d' : LinkedDisk} {h h' : Machine LinkedDisk}

/-- The file beside was tangled up with the store's own, or with a device, when it was written to. -/
def WroteThrough (s : FileStore) (paths : List String) (d d' : LinkedDisk) : Prop :=
  ∃ d₁ d₂, Grows paths d d₁ ∧ d₁.Tangled s.path s.staging ∧ TransGen (Writes s.staging) d₁ d₂ ∧
    (d' = d₂ ∨ FileSystem.rename d₂ s.staging s.path = .ok d')

/-- While a change is being prepared, the path shows the file as it was. -/
theorem Prepares.kept (h : s.Prepares paths d d') : Kept s.path d d' ∨ s.WroteThrough paths d d' := by
  obtain ⟨d₁, hgrows, hwrites⟩ := h
  have hkept := (LinkedDisk.grown_of_grows hgrows).kept s.path
  by_cases ht : d₁.Tangled s.path s.staging
  · rcases Relation.reflTransGen_iff_eq_or_transGen.1 hwrites with rfl | hwrites
    · exact .inl hkept
    · exact .inr ⟨d₁, d', hgrows, ht, hwrites, .inl rfl⟩
  · exact .inl (hkept.sameAt (LinkedDisk.sameAt_of_writes ht hwrites).1)

/-- A file that has been replaced shows all of the new rules, if it shows anything. -/
theorem Replaces.shown (h : s.Replaces paths rules d d') :
    d'.file? s.path = some (Rule.listToJson rules).pretty.toUTF8 ∨ Kept s.path d d' ∨ s.WroteThrough paths d d' := by
  obtain ⟨d₁, d₂, ⟨d₀, hgrows, hwrites⟩, hlast, hmoved⟩ := h
  by_cases ht : d₀.Tangled s.path s.staging
  · exact .inr (.inr ⟨d₀, d₂, hgrows, ht, .tail' hwrites ⟨_, hlast⟩, .inr hmoved⟩)
  obtain ⟨hsame, ht⟩ := LinkedDisk.sameAt_of_writes ht hwrites
  have hread : d₂.file? s.staging = some (Rule.listToJson rules).pretty.toUTF8 :=
    LinkedDisk.file?_of_write (fun p kept hp hdevice => ht ⟨p, hp, .inl ⟨kept, hdevice⟩⟩) hlast
  rcases LinkedDisk.file?_of_rename (by decide) (by decide) hmoved hread (LinkedDisk.not_tangled_of_write ht hlast)
    with hfile | ⟨hbefore, hafter⟩
  · exact .inl hfile
  · -- nothing was shown before, and nothing is now
    have hkept := ((LinkedDisk.grown_of_grows hgrows).kept s.path).sameAt
      (hsame.trans (LinkedDisk.sameAt_of_write ht hlast))
    exact .inr (.inl (.inl (by rw [hafter, hkept.file?_of_none hbefore])))

/-- What one call has made of the disk: the path of the store shows a file with rules that were loaded or are of a kind,
complete, or it shows the file as it was. -/
def Called (s : FileStore) (new : RuleDraft → Prop) (d d' : LinkedDisk) : Prop :=
  (∃ (h : Machine LinkedDisk) (before after : List Rule), h.disk = d ∧ (s.load.run h).1 = .ok before ∧
      (∀ r ∈ after, r ∈ before ∨ new r.toRuleDraft) ∧
      d'.file? s.path = some (Rule.listToJson after).pretty.toUTF8) ∨
    Kept s.path d d' ∨ s.WroteThrough s.ways d d'

theorem Turn.called {new : RuleDraft → Prop} (h : s.Turn s.ways new d d') : s.Called new d d' := by
  rcases h with hprepared | ⟨h, before, after, hd, hload, hafter, hreplaced⟩
  · exact .inr hprepared.kept
  · exact hreplaced.shown.imp_left fun hfile => ⟨h, before, after, hd, hload, hafter, hfile⟩

/-- The path of a store shows all of the rules that the change makes of those that were in the file, and nothing has
failed; or it shows the file as it was. -/
def AllOrNothing {α : Type} (s : FileStore) (h : Machine LinkedDisk) (change : List Rule → List Rule)
    (t : Script (Except StoreError α)) (d : LinkedDisk) : Prop :=
  (∃ rules, (s.load.run h).1 = .ok rules ∧ d.file? s.path = some (Rule.listToJson (change rules)).pretty.toUTF8 ∧
      ∀ e, t ≠ .done (.error e)) ∨
    Kept s.path h.disk d ∨ s.WroteThrough s.ways h.disk d

theorem Changes.allOrNothing {α : Type} {change : List Rule → List Rule} {a : α} {t : Script (Except StoreError α)}
    (hc : s.Changes s.ways h change (∀ r, t = .done r → r = .ok a) d) : s.AllOrNothing h change t d := by
  rcases hc with hprepared | ⟨hfine, rules, hload, hreplaced⟩
  · exact .inr hprepared.kept
  · refine hreplaced.shown.imp_left fun hfile => ⟨rules, hload, hfile, ?_⟩
    rintro e rfl
    cases hfine _ rfl

/-- However far saving or deleting has got, and whatever the machine has refused, the path of the store shows the file
as it was or all of the new rules. -/
theorem save_delete_allOrNothing (s : FileStore) (h : Machine LinkedDisk) :
    (∀ rule t h', Reaches (s.save rule, h) (t, h') → s.AllOrNothing h (upsert · rule) t h'.disk) ∧
      ∀ id t h', Reaches (s.delete id, h) (t, h') → s.AllOrNothing h (without · id) t h'.disk :=
  ⟨fun _ _ _ hr => (reaches_save hr).allOrNothing, fun _ _ _ hr => (reaches_delete hr).allOrNothing⟩

/-- Saving to the path a/../b fails where a is missing and a directory stands in the place of the file beside, but by
then a has been made and the path shows the file b. -/
theorem save_uncovers_file :
    let s : FileStore := ⟨"a/../b"⟩
    let d := (LinkedDisk.empty.create ["b"] "[]".toUTF8).put ["b.json.tmp"] .directory
    let saved := (s.save ⟨.named "Rides", "r"⟩).run ⟨d, .seeded 0, [], []⟩
    saved.1 = .error (.file "a/../b" .isDirectory) ∧
      d.file? s.path = none ∧ saved.2.disk.file? s.path = some "[]".toUTF8 :=
  ⟨by decide +kernel, by decide +kernel, by decide +kernel⟩

/-- Where rules.json.tmp is a link to rules.json, the new rules are written to rules.json itself.  If the machine does
not allow moving, saving fails although they are there; and if it does, the link leads to itself and no rules are
left. -/
theorem save_writes_through_link :
    let s : FileStore := ⟨"rules.json"⟩
    let d := (LinkedDisk.empty.create ["rules.json"] "[]".toUTF8).put ["rules.json.tmp"] (.link "rules.json")
    let rule : Rule := ⟨.named "Rides", "r"⟩
    let h : Machine LinkedDisk := ⟨d, .seeded 0, [], []⟩
    let stopped := follow [true, true, false] (s.save rule) h
    let saved := (s.save rule).run h
    (stopped.1.result? = some (.error (.file "rules.json" denied)) ∧
      stopped.2.disk.file? s.path = some (Rule.listToJson [rule]).pretty.toUTF8) ∧
      saved.1 = .ok () ∧ saved.2.disk.file? s.path = none := by
  exact ⟨⟨by decide +kernel, by decide +kernel⟩, by decide +kernel, by decide +kernel⟩

end FileStore

end BudgetRules
