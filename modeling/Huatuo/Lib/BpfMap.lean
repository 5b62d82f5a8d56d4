import Huatuo.Lib.Keyed
import Mathlib

/-! A BPF hash map as its helpers see it: at most `max_entries` entries, each key once.
`bpf_map_update_elem` refuses, by its flag, a key that is there (`BPF_NOEXIST`) or is not
(`BPF_EXIST`), and a new key once the map is full (`E2BIG`); `bpf_map_delete_elem` removes a
key; a program that writes through the pointer `bpf_map_lookup_elem` gave changes the entry in
place. What a program adds up over the entries moves with each of these by the entry it
touches. -/
namespace Lib.BpfMap

open Lib.Keyed

inductive UpdateFlag
  | any
  | noexist
  | exist
deriving DecidableEq, Repr

/-- A hash map: its entries, keys distinct, and no more of them than it can hold. -/
structure Hash (κ ν : Type*) where
  maxEntries : Nat
  entries : List (κ × ν)
  nodup : (entries.map Prod.fst).Nodup
  bounded : entries.length ≤ maxEntries

namespace Hash

variable {κ ν : Type*} [DecidableEq κ]

def empty (maxEntries : Nat) : Hash κ ν :=
  ⟨maxEntries, [], List.nodup_nil, Nat.zero_le _⟩

def size (m : Hash κ ν) : Nat :=
  m.entries.length

def lookup (m : Hash κ ν) (k : κ) : Option ν :=
  m.entries.lookup k

theorem lookup_isSome_iff (m : Hash κ ν) (k : κ) : (m.lookup k).isSome ↔ k ∈ m.entries.map Prod.fst := by
  unfold lookup
  rw [List.lookup_isSome_iff]
  simp

/-- Writing a key that is in the map, or that a map with room takes. -/
def put (m : Hash κ ν) (k : κ) (v : ν) (h : (m.lookup k).isSome ∨ m.size < m.maxEntries) : Hash κ ν :=
  ⟨m.maxEntries, set m.entries k v, nodup_set m.nodup, by
    have hb := m.bounded
    rw [length_set]
    split_ifs with hk
    · exact hb
    · have hnot : ¬ (m.lookup k).isSome := fun h' => hk ((lookup_isSome_iff m k).1 h')
      rcases h with h | h
      · exact absurd h hnot
      · unfold size at h
        omega⟩

/-- `bpf_map_update_elem`: the map after it, or `none` where the kernel refuses. -/
def update (m : Hash κ ν) (k : κ) (v : ν) (flag : UpdateFlag) : Option (Hash κ ν) :=
  match hk : m.lookup k, flag with
  | some _, .noexist => none
  | none, .exist => none
  | some _, _ => some (m.put k v (.inl (by simp [hk])))
  | none, _ => if h : m.size < m.maxEntries then some (m.put k v (.inr h)) else none

/-- `bpf_map_update_elem` whose return the program does not look at. -/
def updateElem (m : Hash κ ν) (k : κ) (v : ν) (flag : UpdateFlag) : Hash κ ν :=
  (m.update k v flag).getD m

def delete (m : Hash κ ν) (k : κ) : Hash κ ν :=
  ⟨m.maxEntries, Keyed.delete m.entries k, nodup_delete m.nodup,
    Nat.le_trans (List.Sublist.length_le delete_sublist) m.bounded⟩

/-- A write through the pointer `bpf_map_lookup_elem` gave for `k`: its entry changed by `g`,
and nothing when there is none. -/
def modify (m : Hash κ ν) (k : κ) (g : ν → ν) : Hash κ ν :=
  match hk : m.lookup k with
  | none => m
  | some v => m.put k (g v) (.inl (by simp [hk]))

def sumBy (m : Hash κ ν) (f : ν → Nat) : Nat :=
  (m.entries.map fun p => f p.2).sum

/-! ## Lookups and sizes -/

variable {m : Hash κ ν} {k : κ} {v : ν}

theorem size_put {h} : (m.put k v h).size = if (m.lookup k).isSome then m.size else m.size + 1 := by
  simp only [size, put, length_set, lookup_isSome_iff]

theorem lookup_delete (k' : κ) : (m.delete k).lookup k' = if k' = k then none else m.lookup k' :=
  Keyed.lookup_delete k'

theorem size_delete_of_lookup (hk : (m.lookup k).isSome) : (m.delete k).size + 1 = m.size := by
  obtain ⟨v, hv⟩ := Option.isSome_iff_exists.1 hk
  have hperm := perm_cons_delete m.nodup hv
  simp only [size, delete]
  rw [hperm.length_eq, List.length_cons]

theorem size_delete_le : (m.delete k).size ≤ m.size :=
  delete_sublist.length_le

theorem update_eq_some {flag : UpdateFlag} {m' : Hash κ ν} (h : m.update k v flag = some m') :
    ∃ hput, m' = m.put k v hput ∧ (flag = .noexist → m.lookup k = none) ∧
      (flag = .exist → (m.lookup k).isSome) := by
  unfold update at h
  split at h
  · cases h
  · cases h
  · next hk _ =>
    cases h
    exact ⟨_, rfl, fun hf => by subst hf; contradiction, fun _ => by simp [hk]⟩
  · next hk _ =>
    split at h
    · cases h
      exact ⟨_, rfl, fun _ => hk, fun hf => by subst hf; contradiction⟩
    · cases h

theorem size_updateElem_le {flag : UpdateFlag} : (m.updateElem k v flag).size ≤ m.size + 1 := by
  unfold updateElem
  cases h : m.update k v flag with
  | none => exact Nat.le_succ _
  | some m' =>
    obtain ⟨_, rfl, -⟩ := update_eq_some h
    rw [Option.getD_some, size_put]
    split_ifs <;> omega

/-! ## Sums over the entries -/

variable (f : ν → Nat)

omit [DecidableEq κ] in
@[simp] theorem sumBy_empty (n : Nat) : (empty n : Hash κ ν).sumBy f = 0 := rfl

theorem sumBy_delete_of_lookup {v : ν} (hk : m.lookup k = some v) :
    (m.delete k).sumBy f + f v = m.sumBy f := by
  have hperm := perm_cons_delete m.nodup hk
  simp only [sumBy, delete]
  rw [(hperm.map _).sum_eq, List.map_cons, List.sum_cons]
  dsimp only
  omega

theorem sumBy_put {h} : (m.put k v h).sumBy f + ((m.lookup k).map f).getD 0 = m.sumBy f + f v := by
  have hperm := set_perm (v := v) (k := k) m.nodup
  simp only [sumBy, put]
  rw [(hperm.map _).sum_eq, List.map_cons, List.sum_cons]
  cases hk : m.lookup k with
  | none =>
    have : Keyed.delete m.entries k = m.entries := delete_of_lookup_eq_none hk
    simp only [this, Option.map_none, Option.getD_none]
    omega
  | some v' =>
    have := sumBy_delete_of_lookup f hk
    simp only [sumBy, delete] at this
    simp only [Option.map_some, Option.getD_some]
    omega

theorem sumBy_modify {g : ν → ν} {v : ν} (hk : m.lookup k = some v) :
    (m.modify k g).sumBy f + f v = m.sumBy f + f (g v) := by
  unfold modify
  split
  · next hk' => rw [hk] at hk'; cases hk'
  · next v' hk' =>
    rw [hk] at hk'
    cases hk'
    have := sumBy_put (m := m) (k := k) (v := g v) (h := .inl (by simp [hk])) f
    simpa only [hk, Option.map_some, Option.getD_some] using this

end Hash

end Lib.BpfMap
