import Mathlib

/-! The part of Go's `reflect` that sets a field of a struct by the names on its path:
`FieldByName` step by step, then the `Kind` check and `Set`. A struct is seen flattened, as
its leaf fields with their paths; the values assigned are never structs, so a path that ends
at a struct, that is missing or that runs through a leaf panics (`none`). -/
namespace Lib.Reflect

/-- The Go types of leaf fields and of the values assigned to them. -/
inductive GoType
  | bool | int | int64 | uint32 | uint64 | float64 | string | any
  | slice (elem : GoType)
  | map (key elem : GoType)
deriving DecidableEq, Repr

inductive Kind
  | invalid | bool | int | int64 | uint32 | uint64 | float64 | interface | map | slice | string
deriving DecidableEq, Repr

def GoType.kind : GoType → Kind
  | .bool => .bool
  | .int => .int
  | .int64 => .int64
  | .uint32 => .uint32
  | .uint64 => .uint64
  | .float64 => .float64
  | .string => .string
  | .any => .interface
  | .slice _ => .slice
  | .map _ _ => .map

/-- A Go value and its dynamic type: an integer of one of the integer types, a `float64` by
the rational it stands for, or a slice or map of the given types. -/
inductive Value
  | nil
  | bool (b : Bool)
  | int (t : GoType) (n : Int)
  | float (v : ℚ)
  | string (s : String)
  | slice (elem : GoType) (elems : List Value)
  | map (key elem : GoType) (entries : List (Value × Value))
deriving Repr

/-- The dynamic type; `nil` has none. -/
def Value.type : Value → Option GoType
  | .nil => none
  | .bool _ => some .bool
  | .int t _ => some t
  | .float _ => some .float64
  | .string _ => some .string
  | .slice t _ => some (.slice t)
  | .map k e _ => some (.map k e)

/-- `reflect.ValueOf(v).Kind()`: `Invalid` for `nil`. -/
def Value.kind (v : Value) : Kind :=
  match v.type with
  | none => .invalid
  | some t => t.kind

def GoType.zero : GoType → Value
  | .bool => .bool false
  | .int => .int .int 0
  | .int64 => .int .int64 0
  | .uint32 => .int .uint32 0
  | .uint64 => .int .uint64 0
  | .float64 => .float 0
  | .string => .string ""
  | .any => .nil
  | .slice t => .slice t []
  | .map k e => .map k e []

/-- A struct through `reflect`: its leaf fields, each with the names on its path. -/
abbrev Fields := List (List String × Value)

def Fields.put (fields : Fields) (path : List String) (v : Value) : Fields :=
  fields.map fun p => if p.1 = path then (path, v) else p

/-- Apply `f` to the value of the leaf at `path`. -/
def Fields.modify (fields : Fields) (path : List String) (f : Value → Value) : Fields :=
  fields.map fun p => if p.1 = path then (path, f p.2) else p

/-- `FieldByName` along `path`, then the `Kind` check and `Set`, which needs the value's type
to be the field's. -/
def setPath (fields : Fields) (path : List String) (val : Value) : Option Fields :=
  match fields.lookup path with
  | none => none
  | some target =>
    if target.kind ≠ val.kind then none
    else if target.type = val.type then some (fields.put path val)
    else none

/-- The types of the leaves: what a struct's layout fixes. -/
def Fields.layout (fields : Fields) : List (List String × Option GoType) :=
  fields.map fun p => (p.1, p.2.type)

section Put

variable {fields : Fields} {path : List String} {v : Value}

theorem Fields.lookup_of_mem (hnd : (fields.map Prod.fst).Nodup) {p : List String × Value}
    (hp : p ∈ fields) : fields.lookup p.1 = some p.2 := by
  induction fields with
  | nil => simp at hp
  | cons q fields ih =>
    rw [List.map_cons, List.nodup_cons] at hnd
    rcases List.mem_cons.1 hp with rfl | hp
    · simp [List.lookup]
    · have hne : q.1 ≠ p.1 := fun h => hnd.1 (h ▸ List.mem_map_of_mem hp)
      rw [List.lookup, beq_eq_false_iff_ne.2 (Ne.symm hne)]
      exact ih hnd.2 hp

theorem Fields.layout_put (hv : ∀ p ∈ fields, p.1 = path → p.2.type = v.type) :
    (fields.put path v).layout = fields.layout := by
  simp only [Fields.put, Fields.layout, List.map_map]
  apply List.map_congr_left
  intro p hp
  by_cases h : p.1 = path
  · simp [h, hv p hp h]
  · simp only [Function.comp_apply, if_neg h]

theorem setPath_layout (hnd : (fields.map Prod.fst).Nodup) {val : Value} {fields' : Fields}
    (h : setPath fields path val = some fields') : fields'.layout = fields.layout := by
  unfold setPath at h
  split at h
  · cases h
  · next target htarget =>
    split_ifs at h with hk ht
    cases h
    refine Fields.layout_put fun p hp hpath => ?_
    have := Fields.lookup_of_mem hnd hp
    rw [hpath, htarget, Option.some.injEq] at this
    rw [← this, ht]

theorem setPath_isSome_iff (hnd : (fields.map Prod.fst).Nodup) {val : Value} :
    (setPath fields path val).isSome ↔ ∃ t, (path, t) ∈ fields ∧ t.type = val.type := by
  unfold setPath
  constructor
  · intro hs
    split at hs
    · simp at hs
    · next t hl =>
      obtain ⟨l₁, l₂, hc, -⟩ := List.lookup_eq_some_iff.1 hl
      refine ⟨t, by simp [hc], ?_⟩
      by_contra ht
      simp [ht] at hs
  · rintro ⟨t, hmem, ht⟩
    have hk : t.kind = val.kind := by simp [Value.kind, ht]
    rw [Fields.lookup_of_mem hnd hmem]
    simp [hk, ht]

end Put

end Lib.Reflect
