import Mathlib

/-! A machine whose state moves by events, one at a time. A scheduler may allow an event only
in some states; the states an allowed sequence of events reaches are the reachable ones, and
what the initial state has and every allowed step keeps, each of them has. -/
namespace Lib.Machine

variable {σ ε : Type*} (step : σ → ε → σ) (ok : σ → ε → Prop)

def run (s : σ) (es : List ε) : σ :=
  es.foldl step s

/-- Each event of the sequence is one the scheduler allows in the state it meets. -/
def Allowed : σ → List ε → Prop
  | _, [] => True
  | s, e :: es => ok s e ∧ Allowed (step s e) es

/-- The states some allowed sequence of events leads to from `s₀`. -/
def Reachable (s₀ s : σ) : Prop :=
  ∃ es, Allowed step ok s₀ es ∧ run step s₀ es = s

variable {step ok}

@[simp] theorem run_nil (s : σ) : run step s [] = s := rfl

@[simp] theorem run_cons (s : σ) (e : ε) (es : List ε) :
    run step s (e :: es) = run step (step s e) es := rfl

theorem run_append (s : σ) (es₁ es₂ : List ε) :
    run step s (es₁ ++ es₂) = run step (run step s es₁) es₂ :=
  List.foldl_append

@[simp] theorem allowed_nil (s : σ) : Allowed step ok s [] := trivial

@[simp] theorem allowed_cons {s : σ} {e : ε} {es : List ε} :
    Allowed step ok s (e :: es) ↔ ok s e ∧ Allowed step ok (step s e) es := Iff.rfl

theorem allowed_append {s : σ} {es₁ es₂ : List ε} :
    Allowed step ok s (es₁ ++ es₂) ↔ Allowed step ok s es₁ ∧ Allowed step ok (run step s es₁) es₂ := by
  induction es₁ generalizing s with
  | nil => simp
  | cons e es₁ ih => simp [ih, and_assoc]

theorem allowed_true (s : σ) (es : List ε) : Allowed step (fun _ _ => True) s es := by
  induction es generalizing s with
  | nil => trivial
  | cons e es ih => exact ⟨trivial, ih _⟩

/-- The invariant rule: what a state has and each allowed step keeps, the state after every
allowed sequence of events has. -/
theorem run_invariant {Inv : σ → Prop} (hstep : ∀ s e, Inv s → ok s e → Inv (step s e))
    {s : σ} {es : List ε} (hs : Inv s) (hes : Allowed step ok s es) : Inv (run step s es) := by
  induction es generalizing s with
  | nil => exact hs
  | cons e es ih => exact ih (hstep s e hs hes.1) hes.2

theorem allowed_of_forall {p : ε → Prop} {s : σ} {es : List ε} (h : ∀ e ∈ es, p e) :
    Allowed step (fun _ e => p e) s es := by
  induction es generalizing s with
  | nil => trivial
  | cons e es ih => exact ⟨h e List.mem_cons_self, ih fun e' he' => h e' (List.mem_cons_of_mem _ he')⟩

theorem run_invariant_of_forall {Inv : σ → Prop} {p : ε → Prop}
    (hstep : ∀ s e, Inv s → p e → Inv (step s e)) {s : σ} {es : List ε} (hs : Inv s)
    (hes : ∀ e ∈ es, p e) : Inv (run step s es) :=
  @run_invariant _ _ step (fun _ e => p e) Inv hstep s es hs (allowed_of_forall hes)

theorem run_invariant_always {Inv : σ → Prop} (hstep : ∀ s e, Inv s → Inv (step s e)) {s : σ}
    {es : List ε} (hs : Inv s) : Inv (run step s es) :=
  @run_invariant _ _ step (fun _ _ => True) Inv (fun s e hs _ => hstep s e hs) s es hs
    (allowed_true s es)

theorem Reachable.refl (s₀ : σ) : Reachable step ok s₀ s₀ :=
  ⟨[], trivial, rfl⟩

theorem Reachable.tail {s₀ s : σ} {e : ε} (h : Reachable step ok s₀ s) (he : ok s e) :
    Reachable step ok s₀ (step s e) := by
  obtain ⟨es, hes, rfl⟩ := h
  refine ⟨es ++ [e], allowed_append.2 ⟨hes, he, trivial⟩, ?_⟩
  rw [run_append]
  rfl

/-- The invariant rule over reachable states. -/
theorem Reachable.invariant {Inv : σ → Prop} (hstep : ∀ s e, Inv s → ok s e → Inv (step s e))
    {s₀ s : σ} (h0 : Inv s₀) (h : Reachable step ok s₀ s) : Inv s := by
  obtain ⟨es, hes, rfl⟩ := h
  exact run_invariant hstep h0 hes

/-! ## Loops that stop early

A Go loop whose body may `return` is `List.foldlM` in `Except`: each pass gives the state for
the next one, or an exit value that carries the state the loop stopped in. -/

section Loop

variable {α : Type*}

/-- The state a loop ends in, run through or stopped, `stop` reading it off an exit value. -/
def endState (stop : ε → σ) : Except ε σ → σ
  | .ok s => s
  | .error e => stop e

theorem foldlM_rel {R : σ → σ → Prop} (hrefl : ∀ s, R s s)
    (htrans : ∀ {s₁ s₂ s₃}, R s₁ s₂ → R s₂ s₃ → R s₁ s₃) (stop : ε → σ)
    {f : σ → α → Except ε σ} {l : List α} {s₀ : σ}
    (hf : ∀ s, R s₀ s → ∀ a ∈ l, R s (endState stop (f s a))) :
    R s₀ (endState stop (l.foldlM f s₀)) := by
  induction l generalizing s₀ with
  | nil => exact hrefl s₀
  | cons a l ih =>
    have hstep := hf s₀ (hrefl s₀) a List.mem_cons_self
    rw [List.foldlM_cons]
    cases h : f s₀ a with
    | error e =>
      rw [h] at hstep
      exact hstep
    | ok s₁ =>
      rw [h] at hstep
      have hrest := ih fun s hs a ha => hf s (htrans hstep hs) a (List.mem_cons_of_mem _ ha)
      exact htrans hstep hrest

/-- The invariant rule for a loop whose invariant also speaks of the elements still to come: what
holds before the loop, and each pass keeps for the rest, holds after it. -/
theorem foldl_invariant {f : σ → α → σ} (P : σ → List α → Prop)
    (hstep : ∀ s a l, P s (a :: l) → P (f s a) l) : ∀ (l : List α) (s : σ), P s l → P (l.foldl f s) []
  | [], _, h => h
  | a :: l, s, h => foldl_invariant P hstep l (f s a) (hstep s a l h)

theorem foldlM_invariant {f : σ → α → Option σ} (P : σ → Prop)
    (hstep : ∀ s a s', P s → f s a = some s' → P s') :
    ∀ {l : List α} {s₀ s : σ}, P s₀ → l.foldlM f s₀ = some s → P s
  | [], s₀, s, h₀, h => by
    rw [List.foldlM_nil] at h
    cases h
    exact h₀
  | a :: l, s₀, s, h₀, h => by
    rw [List.foldlM_cons] at h
    obtain ⟨s₁, h₁, hrest⟩ := Option.bind_eq_some_iff.1 h
    exact foldlM_invariant P hstep (hstep s₀ a s₁ h₀ h₁) hrest

end Loop

/-! ## What a run emits

An event may emit values, as seen from the state it finds: a call it makes, a record it saves.
A run emits what its events emit, in order. -/

section Emit

variable {β : Type*}

def emitted (step : σ → ε → σ) (emit : σ → ε → List β) : σ → List ε → List β
  | _, [] => []
  | s, e :: es => emit s e ++ emitted step emit (step s e) es

variable {emit : σ → ε → List β}

@[simp] theorem emitted_nil (s : σ) : emitted step emit s [] = [] := rfl

@[simp] theorem emitted_cons (s : σ) (e : ε) (es : List ε) :
    emitted step emit s (e :: es) = emit s e ++ emitted step emit (step s e) es := rfl

theorem emitted_append (s : σ) (es₁ es₂ : List ε) :
    emitted step emit s (es₁ ++ es₂) =
      emitted step emit s es₁ ++ emitted step emit (run step s es₁) es₂ := by
  induction es₁ generalizing s with
  | nil => rfl
  | cons e es₁ ih => rw [List.cons_append, emitted_cons, emitted_cons, ih, List.append_assoc, run_cons]

theorem exists_of_mem_emitted {b : β} :
    ∀ {s : σ} {es : List ε}, b ∈ emitted step emit s es → ∃ s' e, e ∈ es ∧ b ∈ emit s' e
  | _, [], h => absurd h List.not_mem_nil
  | s, e :: es, h => by
    rw [emitted_cons, List.mem_append] at h
    rcases h with h | h
    · exact ⟨s, e, List.mem_cons_self, h⟩
    · obtain ⟨s', e', he', hb⟩ := exists_of_mem_emitted h
      exact ⟨s', e', List.mem_cons_of_mem _ he', hb⟩

theorem map_emitted {γ : Type*} (g : β → γ) :
    ∀ (s : σ) (es : List ε),
      (emitted step emit s es).map g = emitted step (fun s e => (emit s e).map g) s es
  | _, [] => rfl
  | s, e :: es => by rw [emitted_cons, List.map_append, map_emitted g (step s e) es, emitted_cons]

theorem emitted_map_events {ε' : Type*} (f : ε' → ε) :
    ∀ (s : σ) (es : List ε'),
      emitted (fun s e => step s (f e)) (fun s e => emit s (f e)) s es = emitted step emit s (es.map f)
  | _, [] => rfl
  | s, e :: es => by rw [emitted_cons, emitted_map_events f (step s (f e)) es, List.map_cons, emitted_cons]

/-- The rule for a value emitted at most once: an event of the run emits it at most once, only
from an armed state and leaving the state disarmed, and no event of the run arms a disarmed
state. A run from a disarmed state never emits it. -/
theorem count_emitted_le_one [DecidableEq β] {p : ε → Prop} {armed : σ → Prop} {b : β}
    (hemit : ∀ s e, p e → (emit s e).count b ≤ 1 ∧ (b ∈ emit s e → armed s ∧ ¬armed (step s e)))
    (hkeep : ∀ s e, p e → ¬armed s → ¬armed (step s e)) :
    ∀ {s : σ} {es : List ε}, (∀ e ∈ es, p e) →
      (emitted step emit s es).count b ≤ 1 ∧ (¬armed s → b ∉ emitted step emit s es)
  | s, [], _ => by simp
  | s, e :: es, hes => by
    have hp := hes e List.mem_cons_self
    obtain ⟨ih, ihn⟩ := count_emitted_le_one hemit hkeep
      (s := step s e) fun e' he' => hes e' (List.mem_cons_of_mem _ he')
    obtain ⟨hcount, hdisarm⟩ := hemit s e hp
    rw [emitted_cons, List.count_append]
    by_cases hb : b ∈ emit s e
    · -- the event emits it, so the rest of the run starts disarmed and emits it no more
      obtain ⟨harmed, hoff⟩ := hdisarm hb
      rw [List.count_eq_zero.2 (ihn hoff)]
      exact ⟨hcount, fun h => absurd harmed h⟩
    · rw [List.count_eq_zero.2 hb, Nat.zero_add]
      refine ⟨ih, fun hoff hmem => ?_⟩
      rcases List.mem_append.1 hmem with h | h
      · exact hb h
      · exact ihn (hkeep s e hp hoff) h

end Emit

/-! ## Machines seen through another

A machine may be seen, through an abstraction of its states, as a second machine: each of its
steps shows the second machine some events (`view`), none or several, and moves the abstraction
as those events move the second machine. -/

section View

variable {β σ' ε' : Type*} {step' : σ' → ε' → σ'} {emit : σ → ε → List β} {emit' : σ' → ε' → List β}
  (abs : σ → σ') (view : σ → ε → List ε') {Inv : σ → Prop} {p : ε → Prop}

/-- The view rule for what is emitted: a run emits what the second machine emits over the
events the run showed it, when each step emits what the second machine does over its own. -/
theorem emitted_view (hinv : ∀ s e, Inv s → p e → Inv (step s e))
    (hstep : ∀ s e, Inv s → p e → abs (step s e) = run step' (abs s) (view s e))
    (hemit : ∀ s e, Inv s → p e → emit s e = emitted step' emit' (abs s) (view s e)) :
    ∀ {s : σ} {es : List ε}, Inv s → (∀ e ∈ es, p e) →
      emitted step emit s es = emitted step' emit' (abs s) (emitted step view s es)
  | s, [], _, _ => rfl
  | s, e :: es, hs, hes => by
    have hp := hes e List.mem_cons_self
    rw [emitted_cons, emitted_view hinv hstep hemit (hinv s e hs hp)
      fun e' he' => hes e' (List.mem_cons_of_mem _ he'), hstep s e hs hp, hemit s e hs hp,
      emitted_cons, emitted_append]

end View

end Lib.Machine
