import Mathlib

/-! Depth-first pre-order over a graph given by a children function: by recursion on a
depth bound (`unfoldPre`), and by a loop over an explicit stack that puts the children of
the node it visits in front of the rest of the stack (`stackWalk`). The two agree on nodes
whose descendants all lie within the depth bound, once the loop has enough iterations. -/
namespace Lib.Walk

variable {α β : Type*} (c : α → List α)

/-- Pre-order of the tree unfolded from a node, cut below depth `h`. -/
def unfoldPre : Nat → α → List α
  | 0, _ => []
  | h + 1, x => x :: (c x).flatMap (unfoldPre h)

/-- Every path of children from the node is shorter than `h`. -/
def Bounded : Nat → α → Prop
  | 0, _ => False
  | h + 1, x => ∀ y ∈ c x, Bounded h y

/-- The stack loop: visit the top of the stack and replace it by its children. The
first argument bounds the number of iterations. -/
def stackWalk : Nat → List α → List α
  | 0, _ => []
  | _ + 1, [] => []
  | n + 1, x :: st => x :: stackWalk n (c x ++ st)

variable {c}

@[simp] theorem unfoldPre_zero (x : α) : unfoldPre c 0 x = [] := rfl

theorem unfoldPre_succ (h : Nat) (x : α) :
    unfoldPre c (h + 1) x = x :: (c x).flatMap (unfoldPre c h) := rfl

theorem bounded_succ {h : Nat} {x : α} (hb : Bounded c h x) : Bounded c (h + 1) x := by
  induction h generalizing x with
  | zero => exact hb.elim
  | succ h ih => exact fun y hy => ih (hb y hy)

theorem bounded_mono {h k : Nat} {x : α} (hb : Bounded c h x) (hk : h ≤ k) :
    Bounded c k x := by
  induction hk with
  | refl => exact hb
  | step _ ih => exact bounded_succ ih

theorem bounded_pos {h : Nat} {x : α} (hb : Bounded c h x) : 0 < h := by
  cases h with
  | zero => exact hb.elim
  | succ h => omega

theorem unfoldPre_succ_of_bounded {h : Nat} {x : α} (hb : Bounded c h x) :
    unfoldPre c (h + 1) x = unfoldPre c h x := by
  induction h generalizing x with
  | zero => exact hb.elim
  | succ h ih =>
    rw [unfoldPre_succ, unfoldPre_succ (h := h)]
    congr 1
    exact List.flatMap_congr fun y hy => ih (hb y hy)

theorem unfoldPre_eq_cons {h : Nat} {x : α} (hb : Bounded c h x) :
    unfoldPre c h x = x :: (c x).flatMap (unfoldPre c h) := by
  obtain ⟨h, rfl⟩ : ∃ k, h = k + 1 := ⟨h - 1, by have := bounded_pos hb; omega⟩
  rw [unfoldPre_succ]
  congr 1
  exact List.flatMap_congr fun y hy => (unfoldPre_succ_of_bounded (hb y hy)).symm

theorem stackWalk_eq {h n : Nat} {st : List α} (hb : ∀ x ∈ st, Bounded c h x)
    (hn : (st.flatMap (unfoldPre c h)).length ≤ n) :
    stackWalk c n st = st.flatMap (unfoldPre c h) := by
  induction n generalizing st with
  | zero =>
    cases st with
    | nil => rfl
    | cons x st =>
      rw [List.flatMap_cons, unfoldPre_eq_cons (hb x (by simp))] at hn
      simp at hn
  | succ n ih =>
    cases st with
    | nil => rfl
    | cons x st =>
      have hx := hb x (by simp)
      have hkids : ∀ y ∈ c x ++ st, Bounded c h y := by
        intro y hy
        rcases List.mem_append.1 hy with hy | hy
        · obtain ⟨k, rfl⟩ : ∃ k, h = k + 1 := ⟨h - 1, by have := bounded_pos hx; omega⟩
          exact bounded_succ (hx y hy)
        · exact hb y (by simp [hy])
      have hsplit : (x :: st).flatMap (unfoldPre c h) =
          x :: (c x ++ st).flatMap (unfoldPre c h) := by
        rw [List.flatMap_cons, unfoldPre_eq_cons hx, List.flatMap_append]
        rfl
      rw [hsplit] at hn ⊢
      rw [List.length_cons] at hn
      rw [stackWalk, ih hkids (by omega)]

section Map

variable {c' : β → List β} {P : α → Prop} (f : α → β)

theorem unfoldPre_map (hf : ∀ x, P x → c' (f x) = (c x).map f)
    (hP : ∀ x, P x → ∀ y ∈ c x, P y) (h : Nat) {x : α} (hx : P x) :
    unfoldPre c' h (f x) = (unfoldPre c h x).map f := by
  induction h generalizing x with
  | zero => rfl
  | succ h ih =>
    rw [unfoldPre_succ, unfoldPre_succ, hf x hx, List.flatMap_map, List.map_cons,
      List.map_flatMap]
    congr 1
    exact List.flatMap_congr fun y hy => ih (hP x hx y hy)

theorem bounded_map (hf : ∀ x, P x → c' (f x) = (c x).map f)
    (hP : ∀ x, P x → ∀ y ∈ c x, P y) {h : Nat} {x : α} (hx : P x) (hb : Bounded c h x) :
    Bounded c' h (f x) := by
  induction h generalizing x with
  | zero => exact hb.elim
  | succ h ih =>
    intro y hy
    rw [hf x hx, List.mem_map] at hy
    obtain ⟨z, hz, rfl⟩ := hy
    exact ih (hP x hx z hz) (hb z hz)

end Map

end Lib.Walk
