import BudgetRules.Proofs.Json.Numbers
import BudgetRules.Proofs.Json.Strings
import BudgetRules.Proofs.Except
import Mathlib.Data.List.TakeWhile

/-!
# Numbers and strings as they are written

The grammar of numerals and of strings.  What is written by it is scanned as a whole, up to something that cannot go on
with it, and what is scanned is written by it:

    n.Written cs → EndsNumber r → Numeral.scan n.negative (cs ++ r) = .ok (n, r)                (Numeral.Written.scan)
    Numeral.scan neg cs = .ok (n, r) → ∃ body, cs = body ++ r ∧ n.Written body          (Numeral.exists_written_of_scan)
-/

namespace BudgetRules.Json

open Binary64 (spanDigits)

/-! ## Numerals -/

/-- One digit or more. -/
structure Digits (ds : List Char) : Prop where
  ne_nil : ds ≠ []
  digits : ∀ c ∈ ds, c.isDigit = true

theorem spanDigits_eq_iff {cs ds r : List Char} :
    spanDigits cs = (ds, r) ↔
      cs = ds ++ r ∧ (∀ c ∈ ds, c.isDigit = true) ∧ ∀ c ∈ r.head?, c.isDigit = false := by
  constructor
  · intro h
    unfold spanDigits at h
    rw [List.span_eq_takeWhile_dropWhile] at h
    obtain ⟨rfl, rfl⟩ := Prod.mk.inj h
    refine ⟨List.takeWhile_append_dropWhile.symm, fun c hc => List.mem_takeWhile_imp hc, fun c hc => ?_⟩
    have hhead := List.head?_dropWhile_not Char.isDigit cs
    rwa [Option.mem_def.1 hc] at hhead
  · rintro ⟨rfl, hds, hr⟩
    exact spanDigits_append hds hr

namespace Numeral

/-- The sign of an exponent; `down` says that it is a minus. -/
inductive WrittenSign : Bool → List Char → Prop
  | none : WrittenSign false []
  | plus : WrittenSign false ['+']
  | minus : WrittenSign true ['-']

/-- The exponent of a numeral, if there is one. -/
inductive WrittenExponent : Option (Bool × List Char) → List Char → Prop
  | none : WrittenExponent none []
  | some {e : Char} {down : Bool} {sign ds : List Char} : e = 'e' ∨ e = 'E' → WrittenSign down sign → Digits ds →
      WrittenExponent (some (down, ds)) (e :: (sign ++ ds))

/-- The fraction of a numeral, if there is one. -/
inductive WrittenFraction : List Char → List Char → Prop
  | none : WrittenFraction [] []
  | some {ds : List Char} : Digits ds → WrittenFraction ds ('.' :: ds)

/-- A numeral after its sign. -/
inductive Written (n : Numeral) : List Char → Prop
  | intro {fraction exponent : List Char} : WholeDigits n.whole → WrittenFraction n.part fraction →
      WrittenExponent n.exponent exponent → Written n (n.whole ++ (fraction ++ exponent))

/-- The sign in front of an exponent, and what follows it. -/
def cutSign : List Char → Bool × List Char
  | '+' :: r => (false, r)
  | '-' :: r => (true, r)
  | r => (false, r)

theorem WrittenSign.cut {down : Bool} {sign : List Char} (h : WrittenSign down sign) {d : Char} (hd : d.isDigit = true)
    (r : List Char) : cutSign (sign ++ d :: r) = (down, d :: r) := by
  cases h with
  | plus => rfl
  | minus => rfl
  | none =>
    unfold cutSign
    split
    · next heq => exact absurd (List.cons.inj heq).1 (ne_of_isDigit hd (by decide))
    · next heq => exact absurd (List.cons.inj heq).1 (ne_of_isDigit hd (by decide))
    · rfl

theorem exists_writtenSign (cs : List Char) :
    ∃ sign, cs = sign ++ (cutSign cs).2 ∧ WrittenSign (cutSign cs).1 sign := by
  unfold cutSign
  split
  · exact ⟨['+'], rfl, .plus⟩
  · exact ⟨['-'], rfl, .minus⟩
  · exact ⟨[], rfl, .none⟩

theorem scanExponent_cons {e : Char} (he : e = 'e' ∨ e = 'E') (n : Numeral) (cs : List Char) :
    scanExponent n (e :: cs) =
      match spanDigits (cutSign cs).2 with
      | ([], r) => .error (noDigits r)
      | (ds, r) => .ok ({ n with exponent := some ((cutSign cs).1, ds) }, r) := by
  unfold scanExponent
  simp only [if_pos he]
  rfl

theorem WrittenExponent.scan {n : Numeral} {cs r : List Char} (h : WrittenExponent n.exponent cs) (hr : EndsNumber r) :
    scanExponent { n with exponent := Option.none } (cs ++ r) = .ok (n, r) := by
  obtain ⟨neg, whole, part, exponent⟩ := n
  cases h with
  | none => exact scanExponent_of_endsNumber _ hr
  | @some e down sign ds he hsign hds =>
    have hspan := spanDigits_append hds.digits fun c hc => (hr c hc).1
    obtain ⟨d, ds', rfl⟩ := List.exists_cons_of_ne_nil hds.ne_nil
    have hcut := hsign.cut (hds.digits d List.mem_cons_self) (ds' ++ r)
    rw [List.cons_append, List.append_assoc, List.cons_append, scanExponent_cons he, hcut, ← List.cons_append, hspan]

theorem exists_written_of_scanExponent {n n' : Numeral} {cs r : List Char} (hn : n.exponent = none)
    (h : scanExponent n cs = .ok (n', r)) :
    ∃ body, cs = body ++ r ∧ WrittenExponent n'.exponent body ∧ n' = { n with exponent := n'.exponent } := by
  obtain ⟨neg, whole, part, exponent⟩ := n
  cases hn
  match cs with
  | [] =>
    cases h
    exact ⟨[], rfl, .none, rfl⟩
  | c :: cs =>
    by_cases hc : c = 'e' ∨ c = 'E'
    · rw [scanExponent_cons hc] at h
      obtain ⟨sign, hsign, hwritten⟩ := exists_writtenSign cs
      split at h
      · cases h
      · next ds r' hne hspan =>
        cases h
        obtain ⟨hcut, hds, -⟩ := spanDigits_eq_iff.1 hspan
        refine ⟨c :: (sign ++ ds), ?_, .some hc hwritten ⟨hne, hds⟩, rfl⟩
        rw [List.cons_append, List.append_assoc, ← hcut, ← hsign]
    · unfold scanExponent at h
      simp only [if_neg hc] at h
      cases h
      exact ⟨[], rfl, .none, rfl⟩

theorem WrittenExponent.head?_ne {x : Option (Bool × List Char)} {cs r : List Char} (h : WrittenExponent x cs)
    (hr : EndsNumber r) : ∀ c ∈ (cs ++ r).head?, c ≠ '.' ∧ c.isDigit = false := by
  intro c hc
  cases h with
  | none => exact ⟨(hr c hc).2.1, (hr c hc).1⟩
  | some he =>
    cases hc
    rcases he with rfl | rfl <;> decide

theorem WrittenFraction.head?_ne {ds cs r : List Char} (h : WrittenFraction ds cs)
    (hr : ∀ c ∈ r.head?, c ≠ '.' ∧ c.isDigit = false) : ∀ c ∈ (cs ++ r).head?, c.isDigit = false := by
  intro c hc
  cases h with
  | none => exact (hr c hc).2
  | some => cases hc; decide

theorem WrittenFraction.scan (n : Numeral) {cs r : List Char} (h : WrittenFraction n.part cs)
    (hr : ∀ c ∈ r.head?, c ≠ '.' ∧ c.isDigit = false) :
    scanFraction { n with part := [] } (cs ++ r) = scanExponent n r := by
  obtain ⟨neg, whole, part, exponent⟩ := n
  cases h with
  | none =>
    unfold scanFraction
    split
    · next heq => exact absurd rfl (hr '.' (by rw [show r = _ from heq]; rfl)).1
    · rfl
  | some hds =>
    have hne : part ≠ [] := hds.ne_nil
    have hspan : spanDigits (part ++ r) = (part, r) := spanDigits_append hds.digits fun c hc => (hr c hc).2
    unfold scanFraction
    simp only [List.cons_append, hspan]

/-- A numeral is scanned up to where it ends. -/
theorem Written.scan {n : Numeral} {cs r : List Char} (h : n.Written cs) (hr : EndsNumber r) :
    scan n.negative (cs ++ r) = .ok (n, r) := by
  obtain ⟨hwhole, hfraction, hexponent⟩ := h
  have hafter := hexponent.head?_ne hr
  have hscan := hfraction.scan { n with exponent := Option.none } hafter
  rw [List.append_assoc, List.append_assoc, scan_whole _ hwhole (hfraction.head?_ne hafter)]
  exact hscan.trans (hexponent.scan hr)

theorem exists_written_of_scanFraction {n n' : Numeral} {cs r : List Char} (hpart : n.part = [])
    (hexponent : n.exponent = none) (h : scanFraction n cs = .ok (n', r)) :
    ∃ fraction exponent, cs = fraction ++ (exponent ++ r) ∧ WrittenFraction n'.part fraction ∧
      WrittenExponent n'.exponent exponent ∧ n'.negative = n.negative ∧ n'.whole = n.whole := by
  unfold scanFraction at h
  split at h
  · split at h
    · cases h
    · next ds r' hne hspan =>
      obtain ⟨rfl, hds, -⟩ := spanDigits_eq_iff.1 hspan
      obtain ⟨exponent, rfl, hwritten, heq⟩ := exists_written_of_scanExponent (n := { n with part := ds }) hexponent h
      rw [heq]
      exact ⟨'.' :: ds, exponent, by simp, .some ⟨hne, hds⟩, hwritten, rfl, rfl⟩
  · obtain ⟨exponent, rfl, hwritten, heq⟩ := exists_written_of_scanExponent hexponent h
    rw [heq]
    exact ⟨[], exponent, rfl, by rw [hpart]; exact .none, hwritten, rfl, rfl⟩

/-- What is scanned as a numeral is written as one. -/
theorem exists_written_of_scan {neg : Bool} {n : Numeral} {cs r : List Char} (h : scan neg cs = .ok (n, r)) :
    n.negative = neg ∧ ∃ body, cs = body ++ r ∧ n.Written body := by
  have hbody : ∃ ds rest, WholeDigits ds ∧ cs = ds ++ rest ∧ scanFraction ⟨neg, ds, [], none⟩ rest = .ok (n, r) := by
    unfold scan at h
    split at h
    · cases h
    · next hspan =>
      exact ⟨['0'], _, ⟨List.forall_mem_singleton.2 rfl, by decide, fun _ => rfl⟩, (spanDigits_eq_iff.1 hspan).1, h⟩
    · next ds rest hne _ hspan =>
      obtain ⟨hcut, hds, -⟩ := spanDigits_eq_iff.1 hspan
      split at h
      · cases h
      · next hlead => exact ⟨ds, rest, ⟨hds, hne, fun hhead => absurd hhead hlead⟩, hcut, h⟩
  obtain ⟨ds, rest, hds, rfl, hscan⟩ := hbody
  obtain ⟨fraction, exponent, rfl, hfraction, hexponent, hneg, hwhole⟩ := exists_written_of_scanFraction rfl rfl hscan
  refine ⟨hneg, n.whole ++ (fraction ++ exponent), ?_, .intro (hwhole ▸ hds) hfraction hexponent⟩
  rw [hwhole, List.append_assoc, List.append_assoc]

end Numeral

/-! ## Strings -/

/-- The letter after a backslash and the character that both stand for. -/
def shortEscapes : List (Char × Char) :=
  [('"', '"'), ('\\', '\\'), ('/', '/'), ('b', Char.ofNat 8), ('f', Char.ofNat 12), ('n', '\n'), ('r', '\r'),
    ('t', '\t')]

/-- One part of a string. -/
inductive WrittenPiece : Piece → List Char → Prop
  | plain {c : Char} : c ≠ '"' → c ≠ '\\' → ¬c.toNat < 32 → WrittenPiece (.plain c) [c]
  | short {e c : Char} : (e, c) ∈ shortEscapes → WrittenPiece (.plain c) ['\\', e]
  | unit {a b c d : Char} {w x y z : Nat} : hexValue? a = some w → hexValue? b = some x → hexValue? c = some y →
      hexValue? d = some z → WrittenPiece (.unit (4096 * w + 256 * x + 16 * y + z)) ['\\', 'u', a, b, c, d]

/-- The parts of a string, between the quotes. -/
inductive WrittenPieces : List Piece → List Char → Prop
  | nil : WrittenPieces [] []
  | cons {p : Piece} {ps : List Piece} {cs r : List Char} : WrittenPiece p cs → WrittenPieces ps r →
      WrittenPieces (p :: ps) (cs ++ r)

/-- A string with its quotes, and its text unless a part of it stands for half a character. -/
inductive WrittenString : Except Fault String → List Char → Prop
  | intro {ps : List Piece} {cs : List Char} : WrittenPieces ps cs →
      WrittenString ((join .closed [] ps).map String.ofList) ('"' :: (cs ++ ['"']))

theorem escape_short : ∀ p ∈ shortEscapes, ∀ r, escape (p.1 :: r) = .ok (.plain p.2, r) := by
  unfold shortEscapes
  simp only [List.forall_mem_cons]
  exact ⟨fun _ => rfl, fun _ => rfl, fun _ => rfl, fun _ => rfl, fun _ => rfl, fun _ => rfl, fun _ => rfl,
    fun _ => rfl, fun _ h => absurd h List.not_mem_nil⟩

theorem hexUnit_of_digits {a b c d : Char} {w x y z : Nat} (ha : hexValue? a = some w) (hb : hexValue? b = some x)
    (hc : hexValue? c = some y) (hd : hexValue? d = some z) (r : List Char) :
    hexUnit (a :: b :: c :: d :: r) = .ok (4096 * w + 256 * x + 16 * y + z, r) := by
  unfold hexUnit
  simp only [ha, hb, hc, hd]

theorem WrittenPiece.read {p : Piece} {cs : List Char} (h : WrittenPiece p cs) (fuel : Nat) (acc : List Piece)
    (r : List Char) : pieces (fuel + 1) acc (cs ++ r) = pieces fuel (p :: acc) r := by
  cases h with
  | plain hq hb hc => exact pieces_plain hq hb hc
  | short hmem => exact pieces_escape (escape_short _ hmem r)
  | unit ha hb hc hd =>
    refine pieces_escape ?_
    show (hexUnit (_ :: _ :: _ :: _ :: r)).map _ = _
    rw [hexUnit_of_digits ha hb hc hd]
    rfl

theorem WrittenPiece.length_pos {p : Piece} {cs : List Char} (h : WrittenPiece p cs) : 0 < cs.length := by
  cases h <;> exact Nat.succ_pos _

theorem WrittenPieces.read {ps : List Piece} {cs : List Char} (h : WrittenPieces ps cs) {fuel : Nat}
    (hf : cs.length < fuel) (acc : List Piece) (r : List Char) :
    pieces fuel acc (cs ++ '"' :: r) = (acc.reverse ++ ps, .closed, r) := by
  induction h generalizing fuel acc with
  | nil =>
    obtain ⟨fuel, rfl⟩ : ∃ k, fuel = k + 1 := ⟨fuel - 1, by omega⟩
    rw [List.nil_append, pieces, if_pos rfl, List.append_nil]
  | cons hp _ ih =>
    have hpos := hp.length_pos
    rw [List.length_append] at hf
    obtain ⟨fuel, rfl⟩ : ∃ k, fuel = k + 1 := ⟨fuel - 1, by omega⟩
    rw [List.append_assoc, hp.read, ih (by omega), List.reverse_cons, List.append_assoc]
    rfl

/-- A string is read up to its closing quote. -/
theorem WrittenString.read {s : Except Fault String} {cs : List Char} (h : WrittenString s cs) (r : List Char) :
    ∃ body, cs ++ r = '"' :: body ∧ string body = .ok (s, r) := by
  obtain ⟨hps⟩ := h
  next ps cs =>
  refine ⟨cs ++ '"' :: r, by simp, ?_⟩
  unfold string
  rw [hps.read (by rw [List.length_append]; omega)]
  rfl

theorem exists_written_of_hexUnit {n : Nat} {cs r : List Char} (h : hexUnit cs = .ok (n, r)) :
    ∃ body, cs = body ++ r ∧ WrittenPiece (.unit n) ('\\' :: 'u' :: body) := by
  unfold hexUnit at h
  split at h
  · next a b c d r =>
    split at h
    · next ha hb hc hd =>
      cases h
      exact ⟨[a, b, c, d], rfl, .unit ha hb hc hd⟩
    · cases h
  · cases h

theorem exists_written_of_escape {p : Piece} {cs r : List Char} (h : escape cs = .ok (p, r)) :
    ∃ body, cs = body ++ r ∧ WrittenPiece p ('\\' :: body) := by
  unfold escape at h
  split at h
  · cases h
  · obtain ⟨⟨n, r'⟩, hunit, heq⟩ := exists_ok_of_map h
    cases heq
    obtain ⟨body, rfl, hwritten⟩ := exists_written_of_hexUnit hunit
    exact ⟨'u' :: body, rfl, hwritten⟩
  -- the escapes of one letter, and a letter that is none
  all_goals cases h <;> exact ⟨[_], rfl, .short (by decide)⟩

/-- A string is not closed inside an escape. -/
theorem escape_ne_closed (cs : List Char) : escape cs ≠ .error .closed := by
  intro h
  unfold escape at h
  split at h
  · cases h
  · next r =>
    unfold hexUnit at h
    split at h
    · split at h <;> cases h
    · split at h <;> cases h
  all_goals cases h

theorem exists_written_of_pieces {fuel : Nat} {acc ps : List Piece} {cs r : List Char}
    (h : pieces fuel acc cs = (ps, .closed, r)) :
    ∃ ps' body, ps = acc.reverse ++ ps' ∧ cs = body ++ '"' :: r ∧ WrittenPieces ps' body := by
  induction fuel generalizing acc cs with
  | zero => cases h
  | succ fuel ih =>
    cases cs with
    | nil => cases h
    | cons c cs =>
      -- a part that has been read, and those after it
      have hstep {p : Piece} {first rest : List Char} (hp : WrittenPiece p first)
          (h : pieces fuel (p :: acc) rest = (ps, .closed, r)) :
          ∃ ps' body, ps = acc.reverse ++ ps' ∧ first ++ rest = body ++ '"' :: r ∧ WrittenPieces ps' body := by
        obtain ⟨ps', body, rfl, rfl, hbody⟩ := ih h
        exact ⟨p :: ps', first ++ body, by simp, by simp, .cons hp hbody⟩
      rw [pieces] at h
      split at h
      · next hq =>
        cases h
        exact ⟨[], [], by simp, by rw [hq]; rfl, .nil⟩
      · next hq =>
        split at h
        · next hb =>
          split at h
          · next hescape =>
            obtain ⟨body, rfl, hwritten⟩ := exists_written_of_escape hescape
            subst hb
            exact hstep hwritten h
          · next hescape =>
            cases h
            exact absurd hescape (escape_ne_closed _)
        · next hb =>
          split at h
          · cases h
          · next hc => exact hstep (.plain hq hb hc) h

/-- What is read as a string is written as one. -/
theorem exists_written_of_string {s : Except Fault String} {cs r : List Char} (h : string cs = .ok (s, r)) :
    ∃ body, '"' :: cs = body ++ r ∧ WrittenString s body := by
  unfold string at h
  generalize hpieces : pieces (cs.length + 1) [] cs = read at h
  obtain ⟨ps, stop, r'⟩ := read
  simp only at h
  split at h
  · next hstop =>
    cases h
    cases stop <;> cases hstop
    obtain ⟨ps', body, rfl, rfl, hwritten⟩ := exists_written_of_pieces hpieces
    exact ⟨'"' :: (body ++ ['"']), by simp, .intro hwritten⟩
  · cases h
  · cases h

end BudgetRules.Json
