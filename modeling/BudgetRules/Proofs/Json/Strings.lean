import BudgetRules.Json.Printer
import BudgetRules.Json.Tree

/-!
# Quoted texts are read back

A character inside quotes is one part of the string that is read, and stands for itself:

    string (s.toList.flatMap escaped ++ '"' :: r) = .ok (.ok s, r)        (string_quoted)
-/

namespace BudgetRules.Json

/-- The part of a string that a character inside quotes is read as. -/
def pieceOf (c : Char) : Piece :=
  if c.toNat < 32 ∧ c.toNat ≠ 8 ∧ c.toNat ≠ 12 ∧ c ≠ '\n' ∧ c ≠ '\r' ∧ c ≠ '\t' then .unit c.toNat
  else .plain c

theorem hexValue?_hexChar : ∀ n < 16, hexValue? (hexChar n) = some n := by decide

/-- The four digits of a control character. -/
theorem hexUnit_hexChar {n : Nat} (h : n < 32) (r : List Char) :
    hexUnit ('0' :: '0' :: hexChar (n / 16) :: hexChar (n % 16) :: r) = .ok (n, r) := by
  have hhigh := hexValue?_hexChar (n / 16) (by omega)
  have hlow := hexValue?_hexChar (n % 16) (by omega)
  have hzero : hexValue? '0' = some 0 := by decide
  unfold hexUnit
  simp only [hzero, hhigh, hlow]
  have hn : 4096 * 0 + 256 * 0 + 16 * (n / 16) + n % 16 = n := by omega
  rw [hn]

theorem pieces_escape {fuel : Nat} {acc : List Piece} {cs r : List Char} {p : Piece}
    (h : escape cs = .ok (p, r)) : pieces (fuel + 1) acc ('\\' :: cs) = pieces fuel (p :: acc) r := by
  rw [pieces, if_neg (by decide), if_pos rfl, h]

theorem pieces_plain {fuel : Nat} {acc : List Piece} {c : Char} {r : List Char} (hq : c ≠ '"')
    (hb : c ≠ '\\') (hc : ¬c.toNat < 32) :
    pieces (fuel + 1) acc (c :: r) = pieces fuel (.plain c :: acc) r := by
  rw [pieces, if_neg hq, if_neg hb, if_neg hc]

theorem pieceOf_of_le {c : Char} (h : ¬c.toNat < 32) : pieceOf c = .plain c := if_neg fun hc => h hc.1

/-- One character, however it is written inside quotes. -/
theorem pieces_escaped (fuel : Nat) (acc : List Piece) (c : Char) (r : List Char) :
    pieces (fuel + 1) acc (escaped c ++ r) = pieces fuel (pieceOf c :: acc) r := by
  by_cases hq : c = '"'
  · subst hq; exact pieces_escape rfl
  by_cases hb : c = '\\'
  · subst hb; exact pieces_escape rfl
  by_cases h8 : c.toNat = 8
  · obtain rfl : c = Char.ofNat 8 := by rw [← h8, Char.ofNat_toNat]
    exact pieces_escape rfl
  by_cases h12 : c.toNat = 12
  · obtain rfl : c = Char.ofNat 12 := by rw [← h12, Char.ofNat_toNat]
    exact pieces_escape rfl
  by_cases hn : c = '\n'
  · subst hn; exact pieces_escape rfl
  by_cases hr : c = '\r'
  · subst hr; exact pieces_escape rfl
  by_cases ht : c = '\t'
  · subst ht; exact pieces_escape rfl
  unfold escaped
  rw [if_neg hq, if_neg hb, if_neg h8, if_neg h12, if_neg hn, if_neg hr, if_neg ht]
  by_cases hc : c.toNat < 32
  · have hu : pieceOf c = .unit c.toNat := if_pos ⟨hc, h8, h12, hn, hr, ht⟩
    rw [if_pos hc, hu]
    refine pieces_escape ?_
    show (hexUnit ('0' :: '0' :: hexChar (c.toNat / 16) :: hexChar (c.toNat % 16) :: r)).map _ = _
    rw [hexUnit_hexChar hc]
    rfl
  · rw [if_neg hc, pieceOf_of_le hc]
    exact pieces_plain hq hb hc

/-- The parts of a quoted text, up to the quote that ends it. -/
theorem pieces_quoted (cs : List Char) {fuel : Nat} (hf : cs.length < fuel) (acc : List Piece)
    (r : List Char) :
    pieces fuel acc (cs.flatMap escaped ++ '"' :: r) = (acc.reverse ++ cs.map pieceOf, .closed, r) := by
  induction cs generalizing fuel acc with
  | nil =>
    obtain ⟨fuel, rfl⟩ : ∃ k, fuel = k + 1 := ⟨fuel - 1, by simp at hf; omega⟩
    rw [List.flatMap_nil, List.nil_append, pieces, if_pos rfl, List.map_nil, List.append_nil]
  | cons c cs ih =>
    obtain ⟨fuel, rfl⟩ : ∃ k, fuel = k + 1 := ⟨fuel - 1, by simp at hf; omega⟩
    rw [List.flatMap_cons, List.append_assoc, pieces_escaped,
      ih (by rw [List.length_cons] at hf; omega), List.reverse_cons, List.append_assoc, List.map_cons]
    rfl

theorem join_plain (stop : StringEnd) (acc : List Char) (c : Char) (r : List Piece) :
    join stop acc (.plain c :: r) = join stop (c :: acc) r := rfl

theorem join_unit (stop : StringEnd) (acc : List Char) {n : Nat} (h : n < 32) (r : List Piece) :
    join stop acc (.unit n :: r) = join stop (Char.ofNat n :: acc) r := by
  conv => lhs; unfold join
  rw [if_neg (by omega), if_pos (by omega)]

/-- No part that a character is read as needs another one behind it. -/
theorem join_pieceOf (cs acc : List Char) :
    join .closed acc (cs.map pieceOf) = .ok (acc.reverse ++ cs) := by
  induction cs generalizing acc with
  | nil => rw [List.map_nil, join, List.append_nil]; rfl
  | cons c cs ih =>
    have hstep : join .closed acc (pieceOf c :: cs.map pieceOf) =
        join .closed (c :: acc) (cs.map pieceOf) := by
      by_cases hc : c.toNat < 32 ∧ c.toNat ≠ 8 ∧ c.toNat ≠ 12 ∧ c ≠ '\n' ∧ c ≠ '\r' ∧ c ≠ '\t'
      · have hu : pieceOf c = .unit c.toNat := if_pos hc
        rw [hu, join_unit _ _ hc.1, Char.ofNat_toNat]
      · have hp : pieceOf c = .plain c := if_neg hc
        rw [hp, join_plain]
    rw [List.map_cons, hstep, ih, List.reverse_cons, List.append_assoc]
    rfl

theorem length_le_length_flatMap_escaped (cs : List Char) : cs.length ≤ (cs.flatMap escaped).length := by
  induction cs with
  | nil => exact Nat.le_refl 0
  | cons c cs ih =>
    have hc : 1 ≤ (escaped c).length := by
      unfold escaped
      repeat' split
      all_goals simp
    rw [List.flatMap_cons, List.length_append, List.length_cons]
    omega

/-- A quoted text is read as itself. -/
theorem string_quoted (s : String) (r : List Char) :
    string (s.toList.flatMap escaped ++ '"' :: r) = .ok (.ok s, r) := by
  have hfuel : s.toList.length < (s.toList.flatMap escaped ++ '"' :: r).length + 1 := by
    have := length_le_length_flatMap_escaped s.toList
    rw [List.length_append]
    omega
  unfold string
  rw [pieces_quoted s.toList hfuel]
  simp only [List.reverse_nil, List.nil_append, join_pieceOf, Except.map, String.ofList_toList]
  rfl

end BudgetRules.Json
