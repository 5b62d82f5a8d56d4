import Mathlib

/-! A store of keys updated by a stream of events, each of which writes or deletes some
keys: after the stream, a key holds what the last event that wrote it left there. Two orders
of the stream that agree on the events of each key leave the same store. -/
namespace Lib.Store

variable {ε κ ν : Type*} (write : ε → κ → Option (Option ν))

/-- One event: each key it writes gets the value it writes (`none` deletes), the others keep
theirs. -/
def apply (s : κ → Option ν) (e : ε) : κ → Option ν :=
  fun k => (write e k).getD (s k)

variable {write}

theorem apply_of_write {s : κ → Option ν} {e : ε} {k : κ} {v : Option ν} (h : write e k = some v) :
    apply write s e k = v := by
  rw [apply, h, Option.getD_some]

theorem apply_of_not_write {s : κ → Option ν} {e : ε} {k : κ} (h : write e k = none) :
    apply write s e k = s k := by
  rw [apply, h, Option.getD_none]

/-- The last write wins. -/
theorem foldl_apply (l : List ε) (s : κ → Option ν) (k : κ) :
    l.foldl (apply write) s k = ((l.filterMap (write · k)).getLast?).getD (s k) := by
  induction l generalizing s with
  | nil => rfl
  | cons e l ih =>
    rw [List.foldl_cons, ih]
    cases hw : write e k with
    | none => simp [hw, apply_of_not_write hw]
    | some v =>
      cases hl : (l.filterMap (write · k)).getLast? with
      | none =>
        rw [List.getLast?_eq_none_iff] at hl
        simp [hw, hl, apply_of_write hw]
      | some w => simp [hw, hl, List.getLast?_cons]

theorem foldl_apply_eq {l₁ l₂ : List ε} (h : ∀ k, l₁.filterMap (write · k) = l₂.filterMap (write · k))
    (s : κ → Option ν) : l₁.foldl (apply write) s = l₂.foldl (apply write) s := by
  funext k
  rw [foldl_apply, foldl_apply, h k]

theorem foldl_apply_filterMap {α : Type*} (g : α → Option ε) (l : List α) (s : κ → Option ν) :
    (l.filterMap g).foldl (apply write) s = l.foldl (apply fun a k => (g a).bind (write · k)) s := by
  induction l generalizing s with
  | nil => rfl
  | cons a l ih =>
    cases hg : g a with
    | none =>
      rw [List.filterMap_cons_none hg, List.foldl_cons, ih]
      congr 1
      funext k
      simp [apply, hg]
    | some e =>
      rw [List.filterMap_cons_some hg, List.foldl_cons, List.foldl_cons, ih]
      congr 1
      funext k
      simp [apply, hg]

/-! ## The owner of a key

Among the entries of a list, the one that has something for a key; when at most one entry
can, the first one found is that one. -/

section Owner

variable {α β : Type*} {f : α → Option β}

theorem findSome?_of_unique {l : List α} {a : α} (ha : a ∈ l)
    (hu : ∀ b ∈ l, f b ≠ none → b = a) : l.findSome? f = f a := by
  induction l with
  | nil => simp at ha
  | cons b l ih =>
    rw [List.findSome?_cons]
    cases hb : f b with
    | some v =>
      obtain rfl := hu b List.mem_cons_self (by simp [hb])
      rw [hb]
    | none =>
      by_cases hal : a ∈ l
      · exact ih hal fun b' hb' => hu b' (List.mem_cons_of_mem _ hb')
      · have hab : a = b := (List.mem_cons.1 ha).resolve_right hal
        rw [hab, hb, List.findSome?_eq_none_iff]
        intro x hx
        by_contra hne
        exact hal (hu x (List.mem_cons_of_mem _ hx) hne ▸ hx)

theorem findSome?_erase_of_none [BEq α] [LawfulBEq α] {a : α} (ha : f a = none) (l : List α) :
    (l.erase a).findSome? f = l.findSome? f := by
  induction l with
  | nil => rfl
  | cons b l ih =>
    by_cases hb : b = a
    · subst hb
      rw [List.erase_cons_head, List.findSome?_cons, ha]
    · rw [List.erase_cons_tail (by simpa using hb), List.findSome?_cons, List.findSome?_cons, ih]

end Owner

end Lib.Store
