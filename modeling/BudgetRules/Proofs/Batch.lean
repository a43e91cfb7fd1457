import BudgetRules.Engine
import BudgetRules.Proofs.Cascade

/-!
# Batches evaluated apart

The report of a batch does not hang on its sink, which is offered the entries of the records in their order
and then the summary.  Evaluating every record on its own, in any order, comes to the same for a sink whose
wishes do not change while it takes entries:

    Batch.run rules now d records s =
      close now (report rules d records, (entries rules now records).foldl EventSink.offer s)    (run_eq)
    EventSink.Steady s → Batch.runInTurns turns … s = Batch.run … s                    (runInTurns_eq_run)
-/

namespace BudgetRules

/-! ## Sinks -/

namespace EventSink

variable {σ : Type} [EventSink σ] {s : σ}

/-- No entries change which levels a sink wants. -/
def Steady (s : σ) : Prop := ∀ entries : List Entry, enabled (entries.foldl emit s) = enabled s

theorem steady_of_enabled_emit (h : ∀ (s : σ) (e : Entry), enabled (emit s e) = enabled s) (s : σ) :
    Steady s := by
  intro entries
  induction entries generalizing s with
  | nil => rfl
  | cons e rest ih => exact (ih (emit s e)).trans (h s e)

theorem Steady.enabled_emit (h : Steady s) (e : Entry) : enabled (emit s e) = enabled s := h [e]

theorem Steady.emit (h : Steady s) (e : Entry) : Steady (emit s e) := fun entries =>
  (h (e :: entries)).trans (h.enabled_emit e).symm

theorem Steady.foldl_emit (h : Steady s) (entries : List Entry) :
    Steady (entries.foldl EventSink.emit s) := by
  induction entries generalizing s with
  | nil => exact h
  | cons e rest ih => exact ih (h.emit e)

/-- Asked at every entry, a steady sink gives the answers that it gives at first. -/
theorem Steady.foldl_offer (h : Steady s) (entries : List Entry) :
    entries.foldl offer s = (entries.filter fun e => enabled s e.level).foldl EventSink.emit s := by
  induction entries generalizing s with
  | nil => rfl
  | cons e rest ih =>
    rw [List.foldl_cons, offer, List.filter_cons]
    cases he : enabled s e.level with
    | false => simp only [Bool.false_eq_true, if_false]; exact ih h
    | true =>
      simp only [if_true, List.foldl_cons]
      rw [ih (h.emit e), h.enabled_emit e]

end EventSink

/-- A log keeps its least level. -/
theorem EventLog.steady (l : EventLog) : EventSink.Steady l := by
  refine EventSink.steady_of_enabled_emit (fun l e => ?_) l
  show (EventLog.emit l e).enabled = l.enabled
  unfold EventLog.emit
  split <;> rfl

/-- A buffer keeps the entries of the levels that are wanted. -/
theorem EntryBuffer.foldl_offer (wanted : Level → Bool) (kept entries : List Entry) :
    entries.foldl EventSink.offer (⟨wanted, kept⟩ : EntryBuffer) =
      ⟨wanted, kept ++ entries.filter fun e => wanted e.level⟩ := by
  induction entries generalizing kept with
  | nil => simp
  | cons e rest ih =>
    have ho : EventSink.offer (⟨wanted, kept⟩ : EntryBuffer) e =
        if wanted e.level then ⟨wanted, kept ++ [e]⟩ else ⟨wanted, kept⟩ := rfl
    rw [List.foldl_cons, ho]
    cases hw : wanted e.level <;> simp [ih, hw]

namespace Batch

variable {σ : Type} [EventSink σ]

/-! ## One after the other -/

/-- The report with one more record. -/
def addOutcome (rules : List Rule) (rep : Report) (r : Record) : Report :=
  rep.add r (Cascade.outcome rules r).record (Cascade.outcome rules r).applied

/-- The report on some records. -/
def report (rules : List Rule) (dryRun : Bool) (records : List Record) : Report :=
  records.foldl (addOutcome rules) (.empty dryRun (Rule.fingerprint rules))

/-- The entries for some records, without the summary. -/
def entries (rules : List Rule) (now : Timestamp) (records : List Record) : List Entry :=
  records.flatMap fun r => Cascade.entries now r.label rules r

theorem entries_cons (rules : List Rule) (now : Timestamp) (r : Record) (rest : List Record) :
    entries rules now (r :: rest) = Cascade.entries now r.label rules r ++ entries rules now rest := rfl

theorem foldl_step (rules : List Rule) (now : Timestamp) (records : List Record) (rep : Report) (s : σ) :
    records.foldl (step rules now) (rep, s) =
      (records.foldl (addOutcome rules) rep, (entries rules now records).foldl EventSink.offer s) := by
  induction records generalizing rep s with
  | nil => rfl
  | cons r rest ih =>
    have hs : step rules now (rep, s) r =
        (addOutcome rules rep r, (Cascade.entries now r.label rules r).foldl EventSink.offer s) := by
      simp only [step, applyRules_eq, addOutcome]
    rw [List.foldl_cons, hs, ih, entries_cons, List.foldl_append]
    rfl

theorem run_eq (rules : List Rule) (now : Timestamp) (dryRun : Bool) (records : List Record) (s : σ) :
    run rules now dryRun records s =
      close now (report rules dryRun records, (entries rules now records).foldl EventSink.offer s) := by
  rw [run, foldl_step]; rfl

theorem run_fst (rules : List Rule) (now : Timestamp) (dryRun : Bool) (records : List Record) (s : σ) :
    (run rules now dryRun records s).1 = report rules dryRun records := by
  rw [run_eq]
  rfl

/-! ## Each on its own -/

theorem evaluate_eq (rules : List Rule) (now : Timestamp) (wanted : Level → Bool) (r : Record) :
    evaluate rules now wanted r =
      (r, Cascade.outcome rules r,
        (Cascade.entries now r.label rules r).filter fun e => wanted e.level) := by
  simp only [evaluate, applyRules_eq, EntryBuffer.foldl_offer, List.nil_append]

/-- The report does not hang on the sink that is asked, nor on the one that takes the entries. -/
theorem foldl_collect_fst (rules : List Rule) (now : Timestamp) (wanted : Level → Bool)
    (records : List Record) (rep : Report) (s : σ) :
    ((records.map (evaluate rules now wanted)).foldl collect (rep, s)).1 =
      records.foldl (addOutcome rules) rep := by
  induction records generalizing rep s with
  | nil => rfl
  | cons r rest ih =>
    rw [List.map_cons, List.foldl_cons, List.foldl_cons, evaluate_eq]
    exact ih _ _

theorem foldl_collect_snd {s : σ} (h : EventSink.Steady s) (rules : List Rule) (now : Timestamp)
    (records : List Record) (rep : Report) :
    ((records.map (evaluate rules now (EventSink.enabled s))).foldl collect (rep, s)).2 =
      (entries rules now records).foldl EventSink.offer s := by
  generalize hw : EventSink.enabled s = wanted
  induction records generalizing rep s with
  | nil => rfl
  | cons r rest ih =>
    have hs : (collect (rep, s) (evaluate rules now wanted r)) =
        (addOutcome rules rep r, (Cascade.entries now r.label rules r).foldl EventSink.offer s) := by
      rw [evaluate_eq, h.foldl_offer, hw]; rfl
    have hoffer := h.foldl_offer (Cascade.entries now r.label rules r)
    rw [List.map_cons, List.foldl_cons, hs, entries_cons, List.foldl_append]
    refine ih ?_ _ ?_
    · rw [hoffer]; exact h.foldl_emit _
    · rw [hoffer, h, hw]

theorem runApart_fst (rules : List Rule) (now : Timestamp) (dryRun : Bool) (records : List Record) (s : σ) :
    (runApart rules now dryRun records s).1 = report rules dryRun records :=
  foldl_collect_fst rules now (EventSink.enabled s) records _ s

/-- Evaluated apart, a batch comes to the same for a steady sink. -/
theorem runApart_eq_run {s : σ} (h : EventSink.Steady s) (rules : List Rule) (now : Timestamp)
    (dryRun : Bool) (records : List Record) :
    runApart rules now dryRun records s = run rules now dryRun records s := by
  rw [run_eq]
  show close now _ = _
  exact congrArg (close now) (Prod.ext (foldl_collect_fst ..) (foldl_collect_snd h ..))

/-! ## In any order -/

/-- What comes of each record when they are evaluated one at a time in any order.  A turn is the place of a
record among the others; what comes of it is put in that place. -/
def evaluateInTurns (turns : List Nat) (rules : List Rule) (now : Timestamp) (wanted : Level → Bool)
    (records : List Record) : List (Option (Record × Outcome × List Entry)) :=
  turns.foldl (fun places i => places.set i (records[i]?.map (evaluate rules now wanted)))
    (records.map fun _ => none)

/-- The rules over a list of records that are evaluated in the given turns, and then collected in their
order. -/
def runInTurns (turns : List Nat) (rules : List Rule) (now : Timestamp) (dryRun : Bool)
    (records : List Record) (s : σ) : Report × σ :=
  let evaluated := (evaluateInTurns turns rules now (EventSink.enabled s) records).filterMap id
  close now (evaluated.foldl collect (.empty dryRun (Rule.fingerprint rules), s))

/-- A place that has had a turn holds what was put there, whichever came later. -/
theorem getElem?_foldl_set (put : Nat → α) (turns : List Nat) (places : List α) (i : Nat) :
    (turns.foldl (fun places i => places.set i (put i)) places)[i]? =
      if i ∈ turns ∧ i < places.length then some (put i) else places[i]? := by
  induction turns generalizing places with
  | nil => simp
  | cons j rest ih =>
    rw [List.foldl_cons, ih, List.length_set, List.getElem?_set]
    by_cases hij : j = i
    · subst hij
      by_cases hj : j < places.length
      · simp [hj]
      · simp [hj]
    · simp [hij, Ne.symm hij]

theorem evaluateInTurns_eq {turns : List Nat} {records : List Record}
    (h : ∀ i < records.length, i ∈ turns) (rules : List Rule) (now : Timestamp) (wanted : Level → Bool) :
    evaluateInTurns turns rules now wanted records =
      records.map fun r => some (evaluate rules now wanted r) := by
  refine List.ext_getElem? fun i => ?_
  unfold evaluateInTurns
  rw [getElem?_foldl_set, List.length_map, List.getElem?_map, List.getElem?_map]
  by_cases hi : i < records.length
  · rw [if_pos ⟨h i hi, hi⟩, List.getElem?_eq_getElem hi]; rfl
  · rw [if_neg fun hn => hi hn.2, List.getElem?_eq_none (by omega)]; rfl

/-- The order in which the records are evaluated is nothing that the report or the sink shows. -/
theorem runInTurns_eq_run {s : σ} (h : EventSink.Steady s) {turns : List Nat} {records : List Record}
    (ht : ∀ i < records.length, i ∈ turns) (rules : List Rule) (now : Timestamp) (dryRun : Bool) :
    runInTurns turns rules now dryRun records s = run rules now dryRun records s := by
  rw [← runApart_eq_run h]
  unfold runInTurns runApart
  rw [evaluateInTurns_eq ht, List.filterMap_map]
  simp only [Function.comp_def, id_eq, List.filterMap_eq_map']

end Batch

end BudgetRules
