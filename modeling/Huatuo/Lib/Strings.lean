import Mathlib

/-! The functions of Go's `strings`, `strconv` and `path` that the programs use to read text
files line by line and to build names: splitting a line into fields, reading a number, joining,
splitting and trimming names, and cleaning a path. -/
namespace Lib.Strings

def isSpace (c : Char) : Bool :=
  c = '\t' || c = '\n' || c.toNat = 0x0b || c.toNat = 0x0c || c = '\r' || c = ' ' ||
    c.toNat = 0x85 || c.toNat = 0xa0 || c.toNat = 0x1680 ||
    (0x2000 ≤ c.toNat && c.toNat ≤ 0x200a) || c.toNat = 0x2028 || c.toNat = 0x2029 ||
    c.toNat = 0x202f || c.toNat = 0x205f || c.toNat = 0x3000

/-- `strings.FieldsFunc`: the maximal runs of characters where `f` fails. -/
def fieldsFunc (s : String) (f : Char → Bool) : List String :=
  ((s.toList.splitOnP f).filter fun w => !w.isEmpty).map String.ofList

def fields (s : String) : List String :=
  fieldsFunc s isSpace

/-- `strings.Split` around a one-character separator. -/
def split (s : String) (sep : Char) : List String :=
  (s.toList.splitOn sep).map String.ofList

/-- `strings.Trim` with a cut set of one character. -/
def trim (s : String) (c : Char) : String :=
  String.ofList ((s.toList.dropWhile (· = c)).reverse.dropWhile (· = c)).reverse

/-- `strings.Trim` with a cut set. -/
def trimSet (s : String) (cutset : List Char) : String :=
  String.ofList ((s.toList.dropWhile (· ∈ cutset)).reverse.dropWhile (· ∈ cutset)).reverse

/-- `strings.TrimRight` with a cut set of one character. -/
def trimRight (s : String) (c : Char) : String :=
  String.ofList (s.toList.reverse.dropWhile (· = c)).reverse

/-- `strings.ReplaceAll` of a one-character string by another. -/
def replaceAll (s : String) (old new : Char) : String :=
  s.map fun c => if c = old then new else c

def join (elems : List String) (sep : String) : String :=
  sep.intercalate elems

/-- `strings.HasPrefix`, which is also `strings.Index(s, prefix) == 0`. -/
def hasPrefix (s pre : String) : Bool :=
  pre.toList.isPrefixOf s.toList

def trimSuffix (s suffix : String) : String :=
  if suffix.toList.isSuffixOf s.toList then
    String.ofList (s.toList.take (s.toList.length - suffix.toList.length))
  else s

/-- `fmt.Sprintf("0x%x", n)`: the lower-case hexadecimal digits after `0x`. -/
def sprintfHex (n : UInt64) : String :=
  "0x" ++ String.ofList (Nat.toDigits 16 n.toNat)

/-- The pieces of `l` around the separator `c :: cs`, the current piece read so far reversed
in `acc`. -/
def splitSepAux (c : Char) (cs : List Char) : List Char → List Char → List (List Char)
  | [], acc => [acc.reverse]
  | x :: xs, acc =>
    if (c :: cs).isPrefixOf (x :: xs) then
      acc.reverse :: splitSepAux c cs ((x :: xs).drop (cs.length + 1)) []
    else splitSepAux c cs xs (x :: acc)
termination_by l => l.length
decreasing_by all_goals simp only [List.length_drop, List.length_cons]; omega

/-- `strings.Split` around a separator of one character or more. -/
def splitSep (s sep : String) : List String :=
  match sep.toList with
  | [] => s.toList.map fun c => String.ofList [c]
  | c :: cs => (splitSepAux c cs s.toList []).map String.ofList

/-- `strings.SplitN` around one character, for a count `n > 0`: at most `n` pieces, the last
one the rest of the string. -/
def splitNAux (sep : Char) : Nat → List Char → List (List Char)
  | 0, _ => []
  | 1, l => [l]
  | n + 2, l =>
    match l.span (· ≠ sep) with
    | (before, []) => [before]
    | (before, _ :: rest) => before :: splitNAux sep (n + 1) rest

def splitN (s : String) (sep : Char) (n : Nat) : List String :=
  (splitNAux sep n s.toList).map String.ofList

/-- The elements `path.Clean` keeps, on a stack of those kept so far (the last on top): an empty
element and `.` go, and `..` takes back the element before it; with none to take back, a rooted
path drops the `..` and another keeps it. -/
def cleanElems (rooted : Bool) : List (List Char) → List (List Char) → List (List Char)
  | stack, [] => stack.reverse
  | stack, e :: es =>
    if e = [] ∨ e = ['.'] then cleanElems rooted stack es
    else if e = ['.', '.'] then
      match stack with
      | top :: rest =>
        if top = ['.', '.'] then cleanElems rooted (e :: stack) es else cleanElems rooted rest es
      | [] => if rooted then cleanElems rooted [] es else cleanElems rooted [e] es
    else cleanElems rooted (e :: stack) es

/-- `path.Clean`: the kept elements joined by `/`, after a `/` for a rooted path, and `.` for a
relative path that keeps none. -/
def pathClean (p : String) : String :=
  let rooted := p.toList.head? = some '/'
  let body := ['/'].intercalate (cleanElems rooted [] (p.toList.splitOn '/'))
  if rooted then String.ofList ('/' :: body)
  else if body = [] then "." else String.ofList body

/-- `path.Join`: the elements from the first non-empty one joined by `/` and cleaned, and `""`
when every element is empty. -/
def pathJoin (elem : List String) : String :=
  match elem.dropWhile (· = "") with
  | [] => ""
  | elem => pathClean ("/".intercalate elem)

/-- The value of a digit in the bases up to 36. -/
def digitVal? (c : Char) : Option Nat :=
  if '0' ≤ c ∧ c ≤ '9' then some (c.toNat - '0'.toNat)
  else if 'a' ≤ c ∧ c ≤ 'z' then some (c.toNat - 'a'.toNat + 10)
  else if 'A' ≤ c ∧ c ≤ 'Z' then some (c.toNat - 'A'.toNat + 10)
  else none

/-- The digit loop of `strconv.ParseUint` from the value `n` read so far. -/
def parseUintLoop (base : Nat) : List Char → Nat → UInt64 × Bool
  | [], n => (n.toUInt64, false)
  | c :: cs, n =>
    match digitVal? c with
    | none => (0, true)
    | some d =>
      if d < base then
        if n * base + d < 2 ^ 64 then parseUintLoop base cs (n * base + d)
        else (UInt64.ofNat (2 ^ 64 - 1), true)
      else (0, true)

/-- `strconv.ParseUint(s, base, 64)` for a base from 2 to 36: the value and whether there was
an error. A syntax error gives 0 and a value past 64 bits the largest one, whichever the digits
meet first. -/
def parseUint (s : String) (base : Nat) : UInt64 × Bool :=
  match s.toList with
  | [] => (0, true)
  | cs => parseUintLoop base cs 0

/-- A `*strconv.NumError`: the function that failed, the text it was given, and the text of its
error. -/
structure NumError where
  func : String
  num : String
  err : String
deriving DecidableEq, Repr

/-- The error of `ParseUint` on `s`, which came back with `val`: the largest value for a number
past 64 bits, 0 for a syntax error. -/
def parseUintError (s : String) (val : UInt64) : NumError :=
  ⟨"ParseUint", s, if val = 0 then "invalid syntax" else "value out of range"⟩

/-- `strconv.Atoi` on a 64-bit platform: the value of a decimal numeral with an optional
sign when it fits in an `int`, `none` for a syntax or range error. -/
def atoi (s : String) : Option Int :=
  let (neg, ds) : Bool × List Char :=
    match s.toList with
    | '-' :: ds => (true, ds)
    | '+' :: ds => (false, ds)
    | ds => (false, ds)
  if ds.isEmpty then none
  else
    match ds.mapM fun c => if '0' ≤ c ∧ c ≤ '9' then some (c.toNat - '0'.toNat) else none with
    | none => none
    | some vs =>
      let n : Int := vs.foldl (fun n d => n * 10 + d) 0
      let n := if neg then -n else n
      if -2 ^ 63 ≤ n ∧ n < 2 ^ 63 then some n else none

example : atoi (trimSet "16318484" [' ', 'k', 'B']) = some 16318484 := by decide
example : atoi "-9223372036854775808" = some (-9223372036854775808) := by decide
example : atoi "9223372036854775808" = none := by decide
example : atoi "12kB" = none := by decide
example : parseUint "ffffffff81000000" 16 = (0xffffffff81000000, false) := by decide
example : parseUint "0x10" 16 = (0, true) := by decide
example : sprintfHex 0xffff8881c0601000 = "0xffff8881c0601000" := by decide
example : trimRight "oom_victim\x00\x00" '\x00' = "oom_victim" := by decide
example : splitN "tracepoint/sched/sched_switch" '/' 2 = ["tracepoint", "sched/sched_switch"] := by
  decide

/-! ## Names joined and split again -/

@[simp] theorem toList_replaceAll (s : String) (old new : Char) :
    (replaceAll s old new).toList = s.toList.map fun c => if c = old then new else c :=
  String.toList_map

theorem not_mem_replaceAll (s : String) {old new : Char} (h : old ≠ new) :
    old ∉ (replaceAll s old new).toList := by
  rw [toList_replaceAll, List.mem_map]
  rintro ⟨c, -, hc⟩
  split_ifs at hc with hco
  · exact h hc.symm
  · exact hco hc

theorem trimSuffix_append (s suffix : String) : trimSuffix (s ++ suffix) suffix = s := by
  have hsuf : suffix.toList.isSuffixOf (s ++ suffix).toList := by
    rw [List.isSuffixOf_iff_suffix, String.toList_append]
    exact List.suffix_append _ _
  rw [trimSuffix, if_pos hsuf, String.toList_append, List.length_append, Nat.add_sub_cancel,
    List.take_left, String.ofList_toList]

theorem split_join {l : List String} {s : String} {sep : Char} (hs : s.toList = [sep])
    (hsep : ∀ e ∈ l, sep ∉ e.toList) (hne : l ≠ []) : split (join l s) sep = l := by
  have hpieces : ∀ e ∈ l.map String.toList, sep ∉ e := by
    simpa using hsep
  unfold split join
  rw [String.toList_intercalate, hs, List.splitOn_intercalate sep hpieces (by simpa using hne)]
  simp

theorem mem_of_mem_splitOnPPrepend {α : Type*} {p : α → Bool} :
    ∀ (l acc : List α), ∀ w ∈ l.splitOnPPrepend p acc, ∀ c ∈ w, c ∈ l ∨ c ∈ acc
  | [], acc, w, hw, c, hc => by
    rw [List.splitOnPPrepend_nil, List.mem_singleton] at hw
    subst hw
    exact .inr (List.mem_reverse.1 hc)
  | a :: l, acc, w, hw, c, hc => by
    by_cases ha : p a
    · rw [List.splitOnPPrepend_cons_pos ha, List.mem_cons] at hw
      rcases hw with rfl | hw
      · exact .inr (List.mem_reverse.1 hc)
      · rcases mem_of_mem_splitOnPPrepend l [] w hw c hc with hc | hc
        · exact .inl (List.mem_cons_of_mem a hc)
        · exact absurd hc List.not_mem_nil
    · rw [List.splitOnPPrepend_cons_neg (by simpa using ha)] at hw
      rcases mem_of_mem_splitOnPPrepend l (a :: acc) w hw c hc with hc | hc
      · exact .inl (List.mem_cons_of_mem a hc)
      · rcases List.mem_cons.1 hc with rfl | hc
        · exact .inl List.mem_cons_self
        · exact .inr hc

theorem mem_of_mem_fieldsFunc {s w : String} {f : Char → Bool} (hw : w ∈ fieldsFunc s f) :
    ∀ c ∈ w.toList, c ∈ s.toList := by
  obtain ⟨l, hl, rfl⟩ := List.mem_map.1 hw
  intro c hc
  rw [String.toList_ofList] at hc
  rcases mem_of_mem_splitOnPPrepend s.toList [] l (List.mem_filter.1 hl).1 c hc with hc | hc
  · exact hc
  · exact absurd hc List.not_mem_nil

theorem digitChar_ne_newline (d : Nat) : Nat.digitChar d ≠ '\n' := by
  by_cases hd : d < 16
  · interval_cases d <;> decide
  · -- past the hexadecimal digits every number is shown as `*`
    have h : Nat.digitChar d = '*' := by
      simp only [Nat.digitChar]
      repeat rw [if_neg (by omega)]
    rw [h]
    decide

theorem mem_toDigitsCore {b : Nat} : ∀ (fuel n : Nat) (ds : List Char),
    ∀ c ∈ Nat.toDigitsCore b fuel n ds, c ∈ ds ∨ ∃ d, c = Nat.digitChar d
  | 0, _, _, _, hc => .inl hc
  | fuel + 1, n, ds, c, hc => by
    rw [Nat.toDigitsCore] at hc
    split_ifs at hc
    · rcases List.mem_cons.1 hc with rfl | hc
      · exact .inr ⟨_, rfl⟩
      · exact .inl hc
    · rcases mem_toDigitsCore fuel _ _ c hc with hc | hc
      · rcases List.mem_cons.1 hc with rfl | hc
        · exact .inr ⟨_, rfl⟩
        · exact .inl hc
      · exact .inr hc

theorem newline_not_mem_toDigits (b n : Nat) : '\n' ∉ Nat.toDigits b n := by
  intro h
  rcases mem_toDigitsCore _ _ _ _ h with h | ⟨d, hd⟩
  · exact List.not_mem_nil h
  · exact digitChar_ne_newline d hd.symm

example : split (join ["kubepods", "", "pod1_2"] "-") '-' = ["kubepods", "", "pod1_2"] := by decide
example : trimSuffix "kubepods.slice.slice" ".slice" = "kubepods.slice" := by decide
example : pathClean "a//b/../c/." = "a/c" := by decide
example : pathClean "/../a" = "/a" := by decide
example : pathClean "a/../../b" = "../b" := by decide
example : pathJoin ["", "kubepods", "besteffort"] = "kubepods/besteffort" := by decide

end Lib.Strings
