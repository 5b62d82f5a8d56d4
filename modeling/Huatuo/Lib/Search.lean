import Mathlib

/-! Go's package `sort`: `sort.Search`, the binary search for the first index of `[0, n)` at
which a predicate holds, where it holds from some index on; and `sort.Slice`, which puts a
slice in the order of a key without promising to keep the order of equal keys, so it is
whatever function does that. -/
namespace Lib.Search

/-- The loop of `sort.Search` on `[i, j)`; `(i + j) / 2` is `int(uint(i+j) >> 1)`. -/
def searchLoop (f : Nat → Bool) (i j : Nat) : Nat :=
  if i < j then
    let h := (i + j) / 2
    if !f h then searchLoop f (h + 1) j else searchLoop f i h
  else i
termination_by j - i
decreasing_by all_goals omega

def search (n : Nat) (f : Nat → Bool) : Nat :=
  searchLoop f 0 n

section Spec

variable {n : Nat} {f : Nat → Bool}

/-- `f` is false on `[0, n)` up to some index and true from it on. -/
def UpwardClosed (n : Nat) (f : Nat → Bool) : Prop :=
  ∀ a b, a ≤ b → b < n → f a = true → f b = true

/-- The loop's invariant: `f` fails below `i` and holds from `j` on. -/
def Bracket (n : Nat) (f : Nat → Bool) (i j : Nat) : Prop :=
  i ≤ j ∧ j ≤ n ∧ (∀ k < i, f k = false) ∧ ∀ k, j ≤ k → k < n → f k = true

theorem bracket_step (hup : UpwardClosed n f) {i j : Nat} (hb : Bracket n f i j) (hij : i < j) :
    (f ((i + j) / 2) = false → Bracket n f ((i + j) / 2 + 1) j) ∧
      (f ((i + j) / 2) = true → Bracket n f i ((i + j) / 2)) := by
  obtain ⟨-, hjn, hlow, hhigh⟩ := hb
  have hmid : (i + j) / 2 < j := by omega
  constructor
  · intro hf
    refine ⟨by omega, hjn, fun k hk => ?_, hhigh⟩
    cases hfk : f k with
    | false => rfl
    | true => exact absurd (hup k ((i + j) / 2) (by omega) (by omega) hfk) (by rw [hf]; decide)
  · intro hf
    exact ⟨by omega, by omega, hlow, fun k hk hkn => hup _ k hk hkn hf⟩

theorem searchLoop_bracket (hup : UpwardClosed n f) {i j : Nat} (hb : Bracket n f i j) :
    Bracket n f (searchLoop f i j) (searchLoop f i j) := by
  induction i, j using searchLoop.induct f with
  | case1 i j hij h hf ih =>
    rw [searchLoop, if_pos hij, if_pos hf]
    exact ih ((bracket_step hup hb hij).1 (by simpa using hf))
  | case2 i j hij h hf ih =>
    rw [searchLoop, if_pos hij, if_neg hf]
    exact ih ((bracket_step hup hb hij).2 (by simpa using hf))
  | case3 i j hij =>
    rw [searchLoop, if_neg hij]
    have hji : j = i := by have := hb.1; omega
    subst hji
    exact hb

/-- `sort.Search` returns the first index of `[0, n)` where `f` holds, or `n`. -/
theorem search_spec (hup : UpwardClosed n f) :
    search n f ≤ n ∧ (∀ k < search n f, f k = false) ∧
      ∀ k, search n f ≤ k → k < n → f k = true := by
  have hb : Bracket n f (searchLoop f 0 n) (searchLoop f 0 n) := searchLoop_bracket hup
    ⟨Nat.zero_le n, le_refl n, fun _ h => absurd h (Nat.not_lt_zero _),
      fun _ h₁ h₂ => absurd h₂ (by omega)⟩
  exact ⟨hb.2.1, hb.2.2.1, hb.2.2.2⟩

end Spec

/-! ## Searching a sorted list -/

section Sorted

variable {α β : Type*} [LinearOrder β] {key : α → β}

/-- `f(i)` reading `l[i]` for an index of `[0, len(l))`. -/
def at? (l : List α) (p : α → Bool) (i : Nat) : Bool :=
  (l[i]?).any p

theorem upwardClosed_key_gt {l : List α} (hl : l.Pairwise fun a b => key a ≤ key b) (x : β) :
    UpwardClosed l.length (at? l fun a => x < key a) := by
  intro a b hab hb ha
  have ha' : a < l.length := by omega
  simp only [at?, List.getElem?_eq_getElem ha', List.getElem?_eq_getElem hb, Option.any_some,
    decide_eq_true_eq] at ha ⊢
  rcases Nat.lt_or_eq_of_le hab with hlt | rfl
  · exact lt_of_lt_of_le ha (List.pairwise_iff_getElem.1 hl a b ha' hb hlt)
  · exact ha

theorem search_key_gt {l : List α} (hl : l.Pairwise fun a b => key a ≤ key b) (x : β) :
    search l.length (at? l fun a => x < key a) ≤ l.length ∧
      (∀ k (hk : k < l.length), k < search l.length (at? l fun a => x < key a) → key l[k] ≤ x) ∧
      ∀ k (hk : k < l.length), search l.length (at? l fun a => x < key a) ≤ k → x < key l[k] := by
  obtain ⟨hle, hlow, hhigh⟩ := search_spec (upwardClosed_key_gt hl x)
  refine ⟨hle, fun k hk hks => ?_, fun k hk hks => ?_⟩
  · have := hlow k hks
    simp only [at?, List.getElem?_eq_getElem hk, Option.any_some, decide_eq_false_iff_not] at this
    exact not_lt.1 this
  · have := hhigh k hks hk
    simpa [at?, List.getElem?_eq_getElem hk] using this

end Sorted

/-! ## `sort.Slice` -/

/-- What `sort.Slice` with `less` comparing a key does to a slice: a permutation of it in the
order of the key. -/
structure SortBy (α : Type*) {β : Type*} [LinearOrder β] (key : α → β) where
  sort : List α → List α
  perm : ∀ l, (sort l).Perm l
  sorted : ∀ l, (sort l).Pairwise fun a b => key a ≤ key b

section SortBy

variable {α β : Type*} [LinearOrder β] {key : α → β}

theorem eq_of_key_eq {l : List α} (hl : l.Pairwise fun a b => key a < key b) {a b : α}
    (ha : a ∈ l) (hb : b ∈ l) (hab : key a = key b) : a = b := by
  induction l with
  | nil => exact absurd ha List.not_mem_nil
  | cons c l ih =>
    rw [List.pairwise_cons] at hl
    rcases List.mem_cons.1 ha with rfl | ha <;> rcases List.mem_cons.1 hb with rfl | hb
    · rfl
    · exact absurd hab (ne_of_lt (hl.1 b hb))
    · exact absurd hab.symm (ne_of_lt (hl.1 a ‹_›))
    · exact ih hl.2 ha hb

theorem SortBy.sort_eq (s : SortBy α key) {l' : List α} (l : List α) (hp : l'.Perm l)
    (hl : l.Pairwise fun a b => key a < key b) : s.sort l' = l := by
  refine List.Perm.eq_of_pairwise (fun a b ha hb hab hba => ?_) (s.sorted l')
    (hl.imp le_of_lt) ((s.perm l').trans hp)
  exact eq_of_key_eq hl (((s.perm l').trans hp).subset ha) hb (le_antisymm hab hba)

def SortBy.insertion (key : α → β) : SortBy α key where
  sort := List.insertionSort fun a b => key a ≤ key b
  perm := List.perm_insertionSort _
  sorted := by
    have htotal : Std.Total fun a b : α => key a ≤ key b := ⟨fun a b => le_total (key a) (key b)⟩
    have htrans : IsTrans α fun a b => key a ≤ key b := ⟨fun _ _ _ => le_trans⟩
    exact List.pairwise_insertionSort _

end SortBy

end Lib.Search
