import Mathlib

/-! Pieces of Go's semantics that the models share. A Go run-time panic is `none`. -/
namespace Lib.Go

variable {α : Type*}

/-- `s[i]` on a Go slice with a signed index: `none` where Go panics with an index out of
range, on a negative index as on one past the end. -/
def index? (s : List α) (i : Int) : Option α :=
  if i < 0 then none else s[i.toNat]?

theorem index?_of_nonneg {s : List α} {i : Int} (h0 : 0 ≤ i) : index? s i = s[i.toNat]? := by
  rw [index?, if_neg (by omega)]

/-- The loop `for k, v := range m { s[v] = k }` over the entries of a map, in the order the
`range` visits them: `none` is the panic of an index past the end. -/
def setEach (s : List α) : List (α × Nat) → Option (List α)
  | [] => some s
  | (x, i) :: l => if i < s.length then setEach (s.set i x) l else none

theorem setEach_cons (s : List α) (x : α) (i : Nat) (l : List (α × Nat)) :
    setEach s ((x, i) :: l) = if i < s.length then setEach (s.set i x) l else none := rfl

theorem setEach_perm {l₁ l₂ : List (α × Nat)} (hp : l₁.Perm l₂) (hn : (l₁.map Prod.snd).Nodup)
    (s : List α) : setEach s l₁ = setEach s l₂ := by
  induction hp generalizing s with
  | nil => rfl
  | cons p _ ih =>
    obtain ⟨x, i⟩ := p
    rw [List.map_cons, List.nodup_cons] at hn
    simp only [setEach_cons, ih hn.2]
  | swap p q l =>
    obtain ⟨x, i⟩ := p
    obtain ⟨y, j⟩ := q
    simp only [List.map_cons, List.nodup_cons, List.mem_cons] at hn
    have hji : j ≠ i := fun h => hn.1 (.inl h)
    simp only [setEach_cons, List.length_set]
    by_cases hi : i < s.length <;> by_cases hj : j < s.length <;>
      simp only [hi, hj, if_true, if_false, List.set_comm y x hji]
  | trans h₁ _ ih₁ ih₂ => rw [ih₁ hn s, ih₂ ((h₁.map Prod.snd).nodup_iff.1 hn) s]

theorem setEach_zipIdx (l : List α) :
    ∀ (pre r : List α), r.length = l.length →
      setEach (pre ++ r) (l.zipIdx pre.length) = some (pre ++ l) := by
  induction l with
  | nil =>
    intro pre r hr
    rw [List.eq_nil_of_length_eq_zero hr]
    rfl
  | cons x l ih =>
    intro pre r hr
    obtain ⟨y, r, rfl⟩ : ∃ y r', r = y :: r' := List.exists_cons_of_length_eq_add_one hr
    have hset : (pre ++ y :: r).set pre.length x = (pre ++ [x]) ++ r := by
      rw [List.set_append_right _ _ (Nat.le_refl _), Nat.sub_self, List.set_cons_zero,
        List.append_assoc, List.singleton_append]
    rw [List.zipIdx_cons, setEach_cons, if_pos (by simp), hset,
      show pre.length + 1 = (pre ++ [x]).length by simp, ih (pre ++ [x]) r (by simpa using hr),
      List.append_assoc, List.singleton_append]

theorem setEach_replicate_zipIdx (l : List α) (d : α) :
    setEach (List.replicate l.length d) l.zipIdx = some l := by
  simpa using setEach_zipIdx l [] (List.replicate l.length d) List.length_replicate

theorem mapM_eq_some {β : Type*} {f : β → Option α} :
    ∀ {l : List β} {r : List α}, l.map f = r.map some → l.mapM f = some r
  | [], [], _ => rfl
  | x :: l, a :: r, h => by
    rw [List.map_cons, List.map_cons, List.cons.injEq] at h
    rw [List.mapM_cons, h.1, mapM_eq_some h.2]
    rfl
  | [], _ :: _, h => nomatch h
  | _ :: _, [], h => nomatch h

theorem getElem?_of_mapM_eq_some {β : Type*} {f : β → Option α} :
    ∀ {l : List β} {r : List α}, l.mapM f = some r → ∀ i : Nat, r[i]? = l[i]?.bind f
  | [], r, h, i => by
    rw [List.mapM_nil] at h
    cases h
    rfl
  | x :: l, r, h, i => by
    rw [List.mapM_cons] at h
    simp only [Option.pure_def, Option.bind_eq_bind, Option.bind_eq_some_iff,
      Option.some.injEq] at h
    obtain ⟨a, ha, as, has, rfl⟩ := h
    cases i with
    | zero => simp [ha]
    | succ i => simp [getElem?_of_mapM_eq_some has i]

/-! ## Flag words

`flags&FLAG != 0` on a `uint32` whose flag is one bit. -/

theorem and_ne_zero_iff_testBit {a m : UInt32} {k : Nat} (hm : m.toNat = 2 ^ k) :
    a &&& m ≠ 0 ↔ a.toNat.testBit k := by
  rw [ne_eq, ← UInt32.toNat_inj, UInt32.toNat_and, hm, UInt32.toNat_zero, Nat.and_two_pow]
  cases a.toNat.testBit k <;> simp

theorem xor_and_ne_zero_iff {a b m : UInt32} {k : Nat} (hm : m.toNat = 2 ^ k) :
    (a ^^^ b) &&& m ≠ 0 ↔ (a &&& m ≠ 0 ↔ ¬ b &&& m ≠ 0) := by
  rw [and_ne_zero_iff_testBit hm, and_ne_zero_iff_testBit hm, and_ne_zero_iff_testBit hm,
    UInt32.toNat_xor, Nat.testBit_xor]
  cases a.toNat.testBit k <;> cases b.toNat.testBit k <;> simp

/-! ## Unsigned words

A `uint64` sum or product wraps modulo 2^64; one that fits is the sum of the naturals. -/

theorem toNat_add_of_lt {a b : UInt64} (h : a.toNat + b.toNat < 2 ^ 64) :
    (a + b).toNat = a.toNat + b.toNat := by
  rw [UInt64.toNat_add, Nat.mod_eq_of_lt h]

theorem toNat_mul_of_lt {a b : UInt64} (h : a.toNat * b.toNat < 2 ^ 64) :
    (a * b).toNat = a.toNat * b.toNat := by
  rw [UInt64.toNat_mul, Nat.mod_eq_of_lt h]

theorem toNat_sum_of_lt : ∀ {vs : List UInt64}, (vs.map UInt64.toNat).sum < 2 ^ 64 →
    vs.sum.toNat = (vs.map UInt64.toNat).sum
  | [], _ => rfl
  | v :: vs, h => by
    rw [List.map_cons, List.sum_cons] at h
    have ih : vs.sum.toNat = (vs.map UInt64.toNat).sum := toNat_sum_of_lt (by omega)
    rw [List.sum_cons, toNat_add_of_lt (by omega), ih, List.map_cons, List.sum_cons]

theorem toInt_toInt64_of_lt {x : UInt64} (h : x.toNat < 2 ^ 63) : x.toInt64.toInt = x.toNat := by
  have hx : x = UInt64.ofNat x.toNat := by simp
  rw [hx, UInt64.toInt64_ofNat', Int64.toInt_ofNat_of_lt (by simpa using h)]
  simp

theorem toInt_sub_of_mem {a b : Int64} (h₁ : -2 ^ 63 ≤ a.toInt - b.toInt)
    (h₂ : a.toInt - b.toInt < 2 ^ 63) : (a - b).toInt = a.toInt - b.toInt := by
  rw [Int64.toInt_sub]
  exact Int.bmod_eq_of_le (by omega) (by omega)

theorem toInt_add_of_mem {a b : Int64} (h₁ : -2 ^ 63 ≤ a.toInt + b.toInt)
    (h₂ : a.toInt + b.toInt < 2 ^ 63) : (a + b).toInt = a.toInt + b.toInt := by
  rw [Int64.toInt_add]
  exact Int.bmod_eq_of_le (by omega) (by omega)

theorem toInt_div_two {a : Int64} (h : 0 ≤ a.toInt) : (a / 2).toInt = a.toInt / 2 := by
  have hlt := Int64.toInt_lt a
  rw [Int64.toInt_div, show (2 : Int64).toInt = 2 by decide, Int.tdiv_eq_ediv_of_nonneg h]
  exact Int.bmod_eq_of_le (by omega) (by omega)

theorem toNat_toUInt64 (x : Int64) : (x.toUInt64.toNat : Int) = x.toInt % 2 ^ 64 := by
  have h : x.toInt = (x.toUInt64.toNat : Int).bmod (2 ^ 64) := by
    rw [← Int64.toInt_toBitVec, BitVec.toInt_eq_toNat_bmod]
    rfl
  have hlt := x.toUInt64.toNat_lt
  rw [h, Int.bmod]
  split_ifs <;> omega

/-! ## Little-endian numbers

`binary.Read` of a fixed-size number, little-endian, from a reader over a byte slice. -/

/-- The `n` low bytes of `x`, least significant first. -/
def encodeLE : ℕ → ℕ → List UInt8
  | 0, _ => []
  | n + 1, x => UInt8.ofNat (x % 256) :: encodeLE n (x / 256)

/-- The number bytes spell, least significant first. -/
def valueLE (b : List UInt8) : ℕ :=
  b.foldr (fun byte acc => byte.toNat + 256 * acc) 0

/-- `binary.Read(bytes.NewReader(b), binary.LittleEndian, &x)` for an `n`-byte `x`: its first `n`
bytes, or `io.EOF` when there is none and `io.ErrUnexpectedEOF` when there are fewer. -/
def readLE (n : ℕ) (b : List UInt8) : Except String ℕ :=
  if b = [] then .error "EOF"
  else if b.length < n then .error "unexpected EOF"
  else .ok (valueLE (b.take n))

/-! ## Shifts -/

/-- `x << n` on a `uint64` by a count of a signed type: 64 places or more leave 0. A
negative count panics; no caller modelled passes one. -/
def shiftLeft (x : UInt64) (n : Nat) : UInt64 :=
  if n < 64 then x <<< n.toUInt64 else 0

@[simp] theorem shiftLeft_zero (x : UInt64) : shiftLeft x 0 = x := by
  simp [shiftLeft]

/-! ## Time

A `time.Time` is its nanoseconds from the Unix epoch, on one clock. -/

/-- The zero `time.Time`, January 1 of year 1. -/
def timeZero : Int := -62135596800 * 1000000000

/-- `t.Sub(u)`: the nanoseconds between them, held to the range of a `Duration`. -/
def timeSub (t u : Int) : Int :=
  max (-2 ^ 63) (min (t - u) (2 ^ 63 - 1))

def microseconds (d : Int) : Int :=
  d.tdiv 1000

end Lib.Go
