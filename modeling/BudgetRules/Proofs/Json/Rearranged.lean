import BudgetRules.Proofs.Json.Careful
import BudgetRules.Proofs.Json.Decode
import Mathlib.Data.List.Perm.Basic

/-!
# Objects that are read as the same structure

A structure may be written with its members in any order, with members of other names among them, and without the
members that hold what is assumed where they are missing.  A member of its own may be rearranged in turn.  The reader
of a structure takes one member after the other, and those of two fields in either order:

    Rearranged w l l' → TakesAll fields depth s l s₁ → ∃ s₂, TakesAll fields depth s l' s₂ ∧ finish s₂ = finish s₁
                                                                                              (Rearranged.takesAll)
-/

namespace BudgetRules.Json

/-- An object with the given members and nothing wrong. -/
def Members.ofList : List (String × Tree) → Members
  | [] => .stop .closed
  | (k, t) :: rest => .member (.ok k) t (ofList rest)

/-- A list with the given items and nothing wrong. -/
def Items.ofList : List Tree → Items
  | [] => .stop .closed
  | t :: rest => .item t (ofList rest)

/-! ## What may differ -/

/-- What may differ between two objects that stand for one structure. -/
structure Leeway where
  /-- the names of its fields; members of other names may come and go -/
  names : List String
  /-- the members that may be left out, since they hold what is assumed without them -/
  defaults : List (String × Tree)
  /-- what may differ inside a member -/
  inside : String → Tree → Tree → Prop

/-- Members in another order, with more members of unknown names, with fewer that hold defaults, or with others
rearranged inside. -/
inductive Rearranged (w : Leeway) : List (String × Tree) → List (String × Tree) → Prop
  | reordered {l l' : List (String × Tree)} : l.Perm l' → Rearranged w l l'
  | added {k : String} {t : Tree} {cs : List Char} (l : List (String × Tree)) : k ∉ w.names → t.Written cs →
      Rearranged w l ((k, t) :: l)
  | dropped {k : String} {t : Tree} (l : List (String × Tree)) : (k, t) ∈ w.defaults → Rearranged w ((k, t) :: l) l
  | inside {k : String} {t t' : Tree} (l : List (String × Tree)) : w.inside k t t' →
      Rearranged w ((k, t) :: l) ((k, t') :: l)
  | trans {l l' l'' : List (String × Tree)} : Rearranged w l l' → Rearranged w l' l'' → Rearranged w l l''

/-- A value as it is, or an object that is rearranged. -/
inductive Alike (w : Leeway) : Tree → Tree → Prop
  | same (t : Tree) : Alike w t t
  | object {l l' : List (String × Tree)} : Rearranged w l l' →
      Alike w (.object (Members.ofList l)) (.object (Members.ofList l'))

/-- Lists of values that are alike one by one. -/
inductive AlikeLists (w : Leeway) : Tree → Tree → Prop
  | list {ts ts' : List Tree} : List.Forall₂ (Alike w) ts ts' →
      AlikeLists w (.list (Items.ofList ts)) (.list (Items.ofList ts'))

/-! ## Reading member by member -/

section

variable {σ β : Type} {fields : List (Field σ)} {depth : Nat} {s s₁ s₂ : σ}

/-- A member is passed over, or it is read into its field, which has not been read before. -/
inductive Takes (fields : List (Field σ)) (depth : Nat) (s : σ) (k : String) (t : Tree) : σ → Prop
  | passed : fields.find? (·.name == k) = none → t.passedFault? = none → Takes fields depth s k t s
  | read {f : Field σ} {s' : σ} : fields.find? (·.name == k) = some f → f.isSet s = false →
      f.read s depth t = .ok s' → Takes fields depth s k t s'

/-- Members are taken one after the other. -/
inductive TakesAll (fields : List (Field σ)) (depth : Nat) : σ → List (String × Tree) → σ → Prop
  | nil {s : σ} : TakesAll fields depth s [] s
  | cons {s s₁ s₂ : σ} {k : String} {t : Tree} {l : List (String × Tree)} : Takes fields depth s k t s₁ →
      TakesAll fields depth s₁ l s₂ → TakesAll fields depth s ((k, t) :: l) s₂

theorem Members.decodeFields_ofList {l : List (String × Tree)} {s s' : σ} :
    (Members.ofList l).decodeFields fields depth s = .ok s' ↔ TakesAll fields depth s l s' := by
  induction l generalizing s with
  | nil =>
    constructor
    · intro h; cases h; exact .nil
    · intro h; cases h; rfl
  | cons p rest ih =>
    obtain ⟨k, t⟩ := p
    rw [Members.ofList, Members.decodeFields]
    constructor
    · intro h
      split at h
      · next hnone =>
        split at h
        · cases h
        · next hfault => exact .cons (.passed hnone hfault) (ih.1 h)
      · next f hf =>
        split at h
        · cases h
        · next hset =>
          obtain ⟨s₁, hread, h⟩ := exists_ok_of_bind h
          exact .cons (.read hf (Bool.not_eq_true _ ▸ hset) hread) (ih.1 h)
    · intro h
      cases h with
      | cons htakes hrest =>
        cases htakes with
        | passed hnone hfault => simp only [hnone, hfault]; exact ih.2 hrest
        | read hf hset hread =>
          simp only [hf, hset, hread]
          exact ih.2 hrest

/-- The members of an object that is read have names. -/
theorem Members.exists_eq_ofList : ∀ {members : Members} {s s' : σ}, members.decodeFields fields depth s = .ok s' →
    ∃ l, members = Members.ofList l
  | .stop e, s, s', h => by
    rw [Members.decodeFields] at h
    cases e with
    | closed => exact ⟨[], rfl⟩
    | _ => cases h
  | .strayKey _, _, _, h => by cases h
  | .brokenKey b, _, _, h => by cases h
  | .member (.error _) _ _, _, _, h => by cases h
  | .member (.ok k) t rest, s, s', h => by
    have hrest : ∃ s₁, rest.decodeFields fields depth s₁ = .ok s' := by
      rw [Members.decodeFields] at h
      split at h
      · split at h
        · cases h
        · exact ⟨s, h⟩
      · split at h
        · cases h
        · obtain ⟨s₁, -, h⟩ := exists_ok_of_bind h
          exact ⟨s₁, h⟩
    obtain ⟨s₁, hrest⟩ := hrest
    obtain ⟨l, rfl⟩ := Members.exists_eq_ofList hrest
    exact ⟨(k, t) :: l, rfl⟩

/-! ## Fields that do not meddle with one another -/

/-- Reading one field leaves the other as it is, and they may be read in either order. -/
structure Field.Apart (f g : Field σ) : Prop where
  keeps : ∀ {depth : Nat} {s s' : σ} {t : Tree}, f.read s depth t = .ok s' → g.isSet s' = g.isSet s
  swap : ∀ {depth : Nat} {s s₁ s₂ : σ} {t u : Tree}, f.read s depth t = .ok s₁ → g.read s₁ depth u = .ok s₂ →
    ∃ s', g.read s depth u = .ok s' ∧ f.read s' depth t = .ok s₂

/-- A field is set once it has been read. -/
def Field.Sets (f : Field σ) : Prop :=
  ∀ ⦃depth : Nat⦄ ⦃s s' : σ⦄ ⦃t : Tree⦄, f.read s depth t = .ok s' → f.isSet s' = true

/-- Each field is set once it has been read, and fields of different names are apart. -/
structure Field.Lawful (fields : List (Field σ)) : Prop where
  sets : ∀ f ∈ fields, f.Sets
  apart : ∀ f ∈ fields, ∀ g ∈ fields, f.name ≠ g.name → f.Apart g

/-- A field that is kept as an option is apart from another one if the two are kept in different places. -/
theorem Field.apart_of {α γ : Type} {name name' : String} {get : σ → Option α} {set : σ → α → σ} {d : Decoder α}
    {hasDefault hasDefault' : Bool} {get' : σ → Option γ} {set' : σ → γ → σ} {d' : Decoder γ}
    (hget : ∀ s a, get' (set s a) = get' s) (hset : ∀ s a c, set' (set s a) c = set (set' s c) a) :
    (Field.of name get set d hasDefault).Apart (Field.of name' get' set' d' hasDefault') where
  keeps h := by
    obtain ⟨a, -, rfl⟩ := exists_ok_of_map h
    exact congrArg Option.isSome (hget _ a)
  swap h h' := by
    obtain ⟨a, ha, rfl⟩ := exists_ok_of_map h
    obtain ⟨c, hc, rfl⟩ := exists_ok_of_map h'
    exact ⟨_, Field.read_of hc _, (Field.read_of ha _).trans (congrArg _ (hset _ a c).symm)⟩

theorem Field.sets_of {α : Type} {name : String} {get : σ → Option α} {set : σ → α → σ} {d : Decoder α}
    {hasDefault : Bool} (hget : ∀ s a, get (set s a) = some a) : (Field.of name get set d hasDefault).Sets := by
  intro depth s s' t h
  obtain ⟨a, -, rfl⟩ := exists_ok_of_map h
  exact congrArg Option.isSome (hget _ a)

/-- A field may be left out if all that it can hold is what is assumed without it. -/
theorem Field.finish_of_default {α : Type} {name : String} {get : σ → Option α} {set : σ → α → σ} {d : Decoder α}
    {hasDefault : Bool} {finish : σ → β} {t : Tree} (a : α) (hd : ∀ b, d depth t = .ok b → b = a)
    (hfinish : get s = none → finish (set s a) = finish s) (hset : (Field.of name get set d hasDefault).isSet s = false)
    (hread : (Field.of name get set d hasDefault).read s depth t = .ok s₁) : finish s₁ = finish s := by
  obtain ⟨b, hb, rfl⟩ := exists_ok_of_map hread
  rw [hd b hb]
  exact hfinish (Option.isNone_iff_eq_none.1 (Option.isSome_eq_false_iff.1 hset))

theorem Field.name_eq_of_find? {f : Field σ} {k : String} (h : fields.find? (·.name == k) = some f) : f.name = k :=
  beq_iff_eq.1 (List.find?_some h :)

theorem Takes.swap (hfields : Field.Lawful fields) {k k' : String} {t t' : Tree} (h : Takes fields depth s k t s₁)
    (h' : Takes fields depth s₁ k' t' s₂) :
    ∃ s', Takes fields depth s k' t' s' ∧ Takes fields depth s' k t s₂ := by
  cases h with
  | passed hnone hfault => exact ⟨s₂, h', .passed hnone hfault⟩
  | @read f _ hf hset hread =>
    cases h' with
    | passed hnone hfault => exact ⟨s, .passed hnone hfault, .read hf hset hread⟩
    | @read g _ hg hset' hread' =>
      have hmem := List.mem_of_find?_eq_some hf
      have hne : f.name ≠ g.name := by
        intro heq
        rw [Field.name_eq_of_find? hf, Field.name_eq_of_find? hg] at heq
        subst heq
        obtain rfl := Option.some.inj (hf.symm.trans hg)
        rw [hfields.sets f hmem hread] at hset'
        cases hset'
      have hmem' := List.mem_of_find?_eq_some hg
      have hfg := hfields.apart f hmem g hmem' hne
      obtain ⟨s', hfirst, hsecond⟩ := hfg.swap hread hread'
      refine ⟨s', .read hg ?_ hfirst, .read hf ?_ hsecond⟩
      · rw [← hfg.keeps hread]; exact hset'
      · rw [(hfields.apart g hmem' f hmem hne.symm).keeps hfirst]; exact hset

/-- Members are read alike in any order. -/
theorem TakesAll.perm (hfields : Field.Lawful fields) {l l' : List (String × Tree)} (hl : l.Perm l')
    (h : TakesAll fields depth s l s₁) : TakesAll fields depth s l' s₁ := by
  induction hl generalizing s with
  | nil => exact h
  | cons p _ ih =>
    cases h with
    | cons hp hrest => exact .cons hp (ih hrest)
  | swap p q l =>
    cases h with
    | cons hq h =>
      cases h with
      | cons hp hrest =>
        obtain ⟨s', hp', hq'⟩ := hq.swap hfields hp
        exact .cons hp' (.cons hq' hrest)
  | trans _ _ ih ih' => exact ih' (ih h)

theorem TakesAll.append_singleton {l : List (String × Tree)} {k : String} {t : Tree}
    (h : TakesAll fields depth s (l ++ [(k, t)]) s₁) :
    ∃ s', TakesAll fields depth s l s' ∧ Takes fields depth s' k t s₁ := by
  induction l generalizing s with
  | nil =>
    cases h with
    | cons ht hnil => cases hnil; exact ⟨s, .nil, ht⟩
  | cons p rest ih =>
    cases h with
    | cons hp hrest =>
      obtain ⟨s', hrest', ht⟩ := ih hrest
      exact ⟨s', .cons hp hrest', ht⟩

/-! ## Structures -/

/-- The fields of a structure, which is made of what has been read by `finish`, leave the leeway. -/
structure Leeway.Allowed (w : Leeway) (fields : List (Field σ)) (finish : σ → β) : Prop where
  names : ∀ f ∈ fields, f.name ∈ w.names
  defaults : ∀ {k : String} {t : Tree} {f : Field σ}, (k, t) ∈ w.defaults → fields.find? (·.name == k) = some f →
    ∀ {depth : Nat} {s s' : σ}, f.isSet s = false → f.read s depth t = .ok s' → finish s' = finish s
  inside : ∀ {k : String} {t t' : Tree}, w.inside k t t' → ∃ f, fields.find? (·.name == k) = some f ∧
    ∀ {depth : Nat} {s s' : σ}, f.read s depth t = .ok s' → f.read s depth t' = .ok s'

/-- What is rearranged is read as the same structure. -/
theorem Rearranged.takesAll {w : Leeway} {finish : σ → β} (hw : w.Allowed fields finish)
    (hfields : Field.Lawful fields) {l l' : List (String × Tree)} (hl : Rearranged w l l')
    (h : TakesAll fields depth s l s₁) : ∃ s₂, TakesAll fields depth s l' s₂ ∧ finish s₂ = finish s₁ := by
  induction hl generalizing s s₁ with
  | reordered hperm => exact ⟨s₁, h.perm hfields hperm, rfl⟩
  | @added k t cs l hk ht =>
    have hnone : fields.find? (·.name == k) = none := by
      refine List.find?_eq_none.2 fun f hf heq => hk ?_
      rw [← beq_iff_eq.1 heq]
      exact hw.names f hf
    exact ⟨s₁, .cons (.passed hnone ht.passedFault?) h, rfl⟩
  | @dropped k t l hdefault =>
    -- the member that goes may as well be the last one
    obtain ⟨s', hl, ht⟩ := (h.perm hfields (List.perm_append_singleton (k, t) l).symm).append_singleton
    refine ⟨s', hl, ?_⟩
    cases ht with
    | passed => rfl
    | read hf hset hread => exact (hw.defaults hdefault hf hset hread).symm
  | inside l hinside =>
    obtain ⟨f, hf, hread⟩ := hw.inside hinside
    cases h with
    | cons ht hrest =>
      cases ht with
      | passed hnone => cases hf.symm.trans hnone
      | read hf' hset hfirst =>
        obtain rfl := Option.some.inj (hf.symm.trans hf')
        exact ⟨s₁, .cons (.read hf hset (hread hfirst)) hrest, rfl⟩
  | trans _ _ ih ih' =>
    obtain ⟨s', h', heq⟩ := ih h
    obtain ⟨s'', h'', heq'⟩ := ih' h'
    exact ⟨s'', h'', heq'.trans heq⟩

/-- A decoder that reads what is alike as the same value. -/
def Decoder.Allows {α : Type} (d : Decoder α) (w : Leeway) : Prop :=
  ∀ ⦃depth : Nat⦄ ⦃t t' : Tree⦄ ⦃a : α⦄, Alike w t t' → d depth t = .ok a → d depth t' = .ok a

theorem Decoder.allows_struct {α : Type} {w : Leeway} {finish : σ → Except DecodeError α}
    (hw : w.Allowed fields finish) (hfields : Field.Lawful fields) (name : String) (start : σ) :
    Decoder.Allows (fun depth t => Decoder.struct name fields start depth t >>= finish) w := by
  intro depth t t' a ht h
  cases ht with
  | same => exact h
  | @object l l' hl =>
    obtain ⟨s, hs, ha⟩ := exists_ok_of_bind h
    rw [Decoder.struct] at hs
    obtain ⟨hdepth, hinside⟩ := enter_eq_ok hs
    obtain ⟨s', hs', heq⟩ := hl.takesAll hw hfields (Members.decodeFields_ofList.1 hinside)
    have hread : Decoder.struct name fields start depth (.object (Members.ofList l')) = .ok s' := by
      rw [Decoder.struct, enter_of_lt hdepth]
      exact Members.decodeFields_ofList.2 hs'
    show Decoder.struct name fields start depth (.object (Members.ofList l')) >>= finish = .ok a
    rw [hread, ← ha]
    exact heq

theorem Items.decode_ofList {α : Type} {d : Decoder α} {ts : List Tree} {l : List α} :
    (Items.ofList ts).decode d depth = .ok l ↔ List.Forall₂ (fun t a => d depth t = .ok a) ts l := by
  induction ts generalizing l with
  | nil =>
    constructor
    · intro h; cases h; exact .nil
    · intro h; cases h; rfl
  | cons t ts ih =>
    rw [Items.ofList, Items.decode]
    constructor
    · intro h
      obtain ⟨a, ha, h⟩ := exists_ok_of_bind h
      obtain ⟨as, has, h⟩ := exists_ok_of_bind h
      cases h
      exact .cons ha (ih.1 has)
    · intro h
      cases h with
      | cons ha has =>
        rw [ha]
        show (Items.ofList ts).decode d depth >>= _ = _
        rw [ih.2 has]
        rfl

theorem Decoder.list_alike {α : Type} {d : Decoder α} {w : Leeway} (hd : d.Allows w) {t t' : Tree} {l : List α}
    (ht : AlikeLists w t t') (h : Decoder.list d depth t = .ok l) : Decoder.list d depth t' = .ok l := by
  cases ht with
  | @list ts ts' hts =>
    rw [Decoder.list] at h
    obtain ⟨hdepth, hinside⟩ := enter_eq_ok h
    rw [Decoder.list, enter_of_lt hdepth]
    refine Items.decode_ofList.2 ?_
    have hall := Items.decode_ofList.1 hinside
    clear h hinside
    induction hts generalizing l with
    | nil => exact hall
    | cons halike _ ih =>
      cases hall with
      | cons ha has => exact .cons (hd halike ha) (ih has)

theorem Field.read_alike {α : Type} {d : Decoder α} {w : Leeway} (hd : d.Allows w) {t t' : Tree}
    (ht : AlikeLists w t t') {name : String} {get : σ → Option (List α)} {set : σ → List α → σ} {hasDefault : Bool}
    (h : (Field.of name get set (Decoder.list d) hasDefault).read s depth t = .ok s₁) :
    (Field.of name get set (Decoder.list d) hasDefault).read s depth t' = .ok s₁ := by
  obtain ⟨l, hl, rfl⟩ := exists_ok_of_map h
  exact Field.read_of (Decoder.list_alike hd ht hl) _

end

end BudgetRules.Json
