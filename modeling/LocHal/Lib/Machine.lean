import Mathlib.Data.List.Basic
import Mathlib.Data.List.Infix

/-!
# Deterministic machines with outputs

A machine takes one event at a time, moves to the next state and emits a list of outputs.
Everything a program is asked to guarantee "over every run" is stated here once:

* `run` and `outs` are the final state and the outputs of a list of events;
* `Steps C` says that each event of a run meets `C` in the state it is taken from, which is how
  an environment assumption, or the guard of a step, is attached to a run;
* `Always P` says that `P` holds in every state a run passes through;
* `overHistory` reads off the events before each step what is told at it.

The rules the developments use are `always_of_steps` (an invariant preserved by every step that
meets `C`), `always_iff_steps` (when `C` is exactly what keeps the invariant, the runs that keep it
throughout are exactly the runs all of whose steps meet `C`), `outs_iff_steps` (the same for what a
run outputs) and `outs_eq_of_steps` (a machine that simulates another).
-/

namespace LocHal

/-- A deterministic machine over states `σ`, events `ε` and outputs `ο`. -/
structure Machine (σ ε ο : Type*) where
  step : σ → ε → σ × List ο

namespace Machine

variable {σ ε ο : Type*} (M : Machine σ ε ο)

/-- The state after one event. -/
def next (s : σ) (e : ε) : σ := (M.step s e).1

/-- The outputs of one event. -/
def emit (s : σ) (e : ε) : List ο := (M.step s e).2

/-- The state after a list of events. -/
def run : σ → List ε → σ
  | s, [] => s
  | s, e :: es => run (M.next s e) es

/-- The outputs of a list of events, oldest first. -/
def outs : σ → List ε → List ο
  | _, [] => []
  | s, e :: es => M.emit s e ++ outs (M.next s e) es

/-- Each event of the run meets `C` in the state it is taken from. -/
def Steps (C : σ → ε → Prop) : σ → List ε → Prop
  | _, [] => True
  | s, e :: es => C s e ∧ Steps C (M.next s e) es

/-- `P` holds in every state of the run, the first and the last included. -/
def Always (P : σ → Prop) : σ → List ε → Prop
  | s, [] => P s
  | s, e :: es => P s ∧ Always P (M.next s e) es

instance decidableSteps (C : σ → ε → Prop) [∀ s e, Decidable (C s e)] :
    ∀ s es, Decidable (M.Steps C s es)
  | _, [] => isTrue trivial
  | s, e :: es =>
      have := decidableSteps C (M.next s e) es
      inferInstanceAs (Decidable (C s e ∧ M.Steps C (M.next s e) es))

instance decidableAlways (P : σ → Prop) [DecidablePred P] :
    ∀ s es, Decidable (M.Always P s es)
  | s, [] => inferInstanceAs (Decidable (P s))
  | s, e :: es =>
      have := decidableAlways P (M.next s e) es
      inferInstanceAs (Decidable (P s ∧ M.Always P (M.next s e) es))

@[simp] lemma run_nil (s : σ) : M.run s [] = s := rfl

@[simp] lemma run_cons (s : σ) (e : ε) (es : List ε) :
    M.run s (e :: es) = M.run (M.next s e) es := rfl

@[simp] lemma outs_nil (s : σ) : M.outs s [] = [] := rfl

@[simp] lemma outs_cons (s : σ) (e : ε) (es : List ε) :
    M.outs s (e :: es) = M.emit s e ++ M.outs (M.next s e) es := rfl

@[simp] lemma steps_nil (C : σ → ε → Prop) (s : σ) : M.Steps C s [] := trivial

@[simp] lemma steps_cons (C : σ → ε → Prop) (s : σ) (e : ε) (es : List ε) :
    M.Steps C s (e :: es) ↔ C s e ∧ M.Steps C (M.next s e) es := Iff.rfl

@[simp] lemma always_nil (P : σ → Prop) (s : σ) : M.Always P s [] ↔ P s := Iff.rfl

@[simp] lemma always_cons (P : σ → Prop) (s : σ) (e : ε) (es : List ε) :
    M.Always P s (e :: es) ↔ P s ∧ M.Always P (M.next s e) es := Iff.rfl

lemma run_append (s : σ) (es fs : List ε) : M.run s (es ++ fs) = M.run (M.run s es) fs := by
  induction es generalizing s with
  | nil => rfl
  | cons e es ih => exact ih _

lemma outs_append (s : σ) (es fs : List ε) :
    M.outs s (es ++ fs) = M.outs s es ++ M.outs (M.run s es) fs := by
  induction es generalizing s with
  | nil => rfl
  | cons e es ih => simp only [List.cons_append, outs_cons, run_cons, ih, List.append_assoc]

lemma steps_append (C : σ → ε → Prop) (s : σ) (es fs : List ε) :
    M.Steps C s (es ++ fs) ↔ M.Steps C s es ∧ M.Steps C (M.run s es) fs := by
  induction es generalizing s with
  | nil => simp
  | cons e es ih => simp only [List.cons_append, steps_cons, run_cons, ih, and_assoc]

lemma steps_of_forall {C : σ → ε → Prop} (h : ∀ s e, C s e) (s : σ) (es : List ε) :
    M.Steps C s es := by
  induction es generalizing s with
  | nil => trivial
  | cons e es ih => exact ⟨h s e, ih _⟩

/-- What every step preserves holds after every run. -/
lemma run_of_invariant {P : σ → Prop} (hstep : ∀ s e, P s → P (M.next s e)) {s : σ} (h0 : P s)
    (es : List ε) : P (M.run s es) := by
  induction es generalizing s with
  | nil => exact h0
  | cons e es ih => exact ih (hstep s e h0)

variable {M}

lemma Steps.mono {C D : σ → ε → Prop} (h : ∀ s e, C s e → D s e) {s : σ} {es : List ε}
    (hs : M.Steps C s es) : M.Steps D s es := by
  induction es generalizing s with
  | nil => trivial
  | cons e es ih => exact ⟨h s e hs.1, ih hs.2⟩

lemma Always.mono {P Q : σ → Prop} (h : ∀ s, P s → Q s) {s : σ} {es : List ε}
    (hs : M.Always P s es) : M.Always Q s es := by
  induction es generalizing s with
  | nil => exact h s hs
  | cons e es ih => exact ⟨h s hs.1, ih hs.2⟩

lemma Always.head {P : σ → Prop} {s : σ} {es : List ε} (h : M.Always P s es) : P s := by
  cases es with
  | nil => exact h
  | cons e es => exact h.1

/-- What a state with `P` gives each step holds of every step of a run that keeps `P`. -/
lemma Always.steps {P : σ → Prop} {A : σ → ε → Prop} (h : ∀ s e, P s → A s e) {s : σ} {es : List ε}
    (hs : M.Always P s es) : M.Steps A s es := by
  induction es generalizing s with
  | nil => trivial
  | cons e es ih => exact ⟨h s e hs.1, ih hs.2⟩

/-- A run not all of whose steps meet `C` has a first one that does not. -/
lemma exists_first_of_not_steps {C : σ → ε → Prop} {s : σ} {es : List ε} (h : ¬ M.Steps C s es) :
    ∃ pre e rest, es = pre ++ e :: rest ∧ M.Steps C s pre ∧ ¬ C (M.run s pre) e := by
  induction es generalizing s with
  | nil => exact absurd trivial h
  | cons e es ih =>
      by_cases hC : C s e
      · obtain ⟨pre, e', rest, rfl, hpre, hC'⟩ := ih fun hs => h ⟨hC, hs⟩
        exact ⟨e :: pre, e', rest, rfl, ⟨hC, hpre⟩, hC'⟩
      · exact ⟨[], e, es, rfl, trivial, hC⟩

/-- A run not all of whose steps meet `C` has one that does not. -/
lemma exists_step_of_not_steps {C : σ → ε → Prop} {s : σ} {es : List ε} (h : ¬ M.Steps C s es) :
    ∃ pre e rest, es = pre ++ e :: rest ∧ ¬ C (M.run s pre) e := by
  obtain ⟨pre, e, rest, hes, -, hC⟩ := exists_first_of_not_steps h
  exact ⟨pre, e, rest, hes, hC⟩

/-- `Always` speaks about the states after each prefix of the run. -/
lemma always_iff_prefix {P : σ → Prop} {s : σ} {es : List ε} :
    M.Always P s es ↔ ∀ pre, pre <+: es → P (M.run s pre) := by
  induction es generalizing s with
  | nil => simp [List.prefix_nil]
  | cons e es ih =>
      rw [always_cons, ih]
      constructor
      · rintro ⟨h0, h⟩ pre hpre
        rcases List.prefix_cons_iff.mp hpre with rfl | ⟨t, rfl, ht⟩
        · exact h0
        · exact h t ht
      · intro h
        exact ⟨h [] (List.nil_prefix), fun pre hpre =>
          h (e :: pre) (List.cons_prefix_cons.mpr ⟨rfl, hpre⟩)⟩

/-- `Always` speaks about the first state and about the state each step ends in. -/
lemma always_iff_steps_next {P : σ → Prop} {s : σ} {es : List ε} :
    M.Always P s es ↔ P s ∧ M.Steps (fun s e => P (M.next s e)) s es := by
  induction es generalizing s with
  | nil => exact (and_iff_left trivial).symm
  | cons e es ih => rw [always_cons, steps_cons, ih]

lemma steps_and {C D : σ → ε → Prop} {s : σ} {es : List ε} :
    M.Steps (fun s e => C s e ∧ D s e) s es ↔ M.Steps C s es ∧ M.Steps D s es := by
  induction es generalizing s with
  | nil => exact (and_iff_left trivial).symm
  | cons e es ih =>
      simp only [steps_cons, ih]
      exact and_and_and_comm

/-- **The invariant rule.** What every step meeting `C` preserves holds throughout every run
whose steps all meet `C`. -/
theorem always_of_steps {C : σ → ε → Prop} {P : σ → Prop}
    (hstep : ∀ s e, P s → C s e → P (M.next s e)) {s : σ} {es : List ε}
    (h0 : P s) (hs : M.Steps C s es) : M.Always P s es := by
  induction es generalizing s with
  | nil => exact h0
  | cons e es ih => exact ⟨h0, ih (hstep s e h0 hs.1) hs.2⟩

/-- The invariant rule, read at the last state. -/
theorem run_of_steps {C : σ → ε → Prop} {P : σ → Prop}
    (hstep : ∀ s e, P s → C s e → P (M.next s e)) {s : σ} {es : List ε}
    (h0 : P s) (hs : M.Steps C s es) : P (M.run s es) :=
  always_iff_prefix.mp (always_of_steps hstep h0 hs) es (List.prefix_refl es)

/-- **The simulation rule.** Two machines that are related step by step, with the same outputs, are
related after every run, with the same outputs. -/
theorem outs_eq_of_steps {τ : Type*} {N : Machine τ ε ο} {R : σ → τ → Prop}
    (hstep : ∀ s t e, R s t → M.emit s e = N.emit t e ∧ R (M.next s e) (N.next t e)) {s : σ} {t : τ}
    (h0 : R s t) (es : List ε) : M.outs s es = N.outs t es ∧ R (M.run s es) (N.run t es) := by
  induction es generalizing s t with
  | nil => exact ⟨rfl, h0⟩
  | cons e es ih =>
      obtain ⟨hemit, hnext⟩ := hstep s t e h0
      obtain ⟨houts, hrun⟩ := ih hnext
      exact ⟨by rw [outs_cons, outs_cons, hemit, houts], hrun⟩

/-- **The latch rule.** What a step makes true exactly when it gives the output `o`, and what stays
true, is true after a run exactly when it was true before or the run has given `o`. -/
theorem run_iff_mem_outs {P : σ → Prop} {o : ο}
    (hstep : ∀ s e, P (M.next s e) ↔ P s ∨ o ∈ M.emit s e) (s : σ) (es : List ε) :
    P (M.run s es) ↔ P s ∨ o ∈ M.outs s es := by
  induction es generalizing s with
  | nil => simp
  | cons e es ih => rw [run_cons, ih, hstep, outs_cons, List.mem_append, or_assoc]

/-- **The rule of no return.**  When a step keeps `P` exactly if it meets `C`, and cannot restore
`P`, then `P` holds after a run exactly when it held before and all steps of the run have met `C`.
The steps may be taken to keep an invariant `I` as long as they meet the assumption `F`. -/
theorem run_iff_steps {I P : σ → Prop} {F C : σ → ε → Prop}
    (hinv : ∀ s e, I s → F s e → I (M.next s e))
    (hstep : ∀ s e, I s → F s e → (P (M.next s e) ↔ P s ∧ C s e)) {s : σ} {es : List ε} (hI : I s)
    (hF : M.Steps F s es) : P (M.run s es) ↔ P s ∧ M.Steps C s es := by
  induction es generalizing s with
  | nil => exact (and_iff_left trivial).symm
  | cons e es ih =>
      rw [run_cons, steps_cons, ih (hinv s e hI hF.1) hF.2, hstep s e hI hF.1, and_assoc]

/-- **The exact-guard rule.** When `C` is exactly what a step needs in order to keep `P`, the
runs that keep `P` throughout are the runs all of whose steps meet `C`: the first step that does
not meet `C` is taken from a state that still has `P`, and loses it. -/
theorem always_iff_steps {C : σ → ε → Prop} {P : σ → Prop}
    (hstep : ∀ s e, P s → (P (M.next s e) ↔ C s e)) {s : σ} {es : List ε} (h0 : P s) :
    M.Always P s es ↔ M.Steps C s es := by
  constructor
  · intro h
    induction es generalizing s with
    | nil => trivial
    | cons e es ih => exact ⟨(hstep s e h0).mp h.2.head, ih h.2.head h.2⟩
  · exact always_of_steps (fun s e hP hC => (hstep s e hP).mpr hC) h0

/-- **The exact-guard rule under an invariant.** What every step keeps may be used to see that `C`
is exactly what a step needs in order to keep `P`. -/
theorem always_iff_steps_of_invariant {I : σ → Prop} {C : σ → ε → Prop} {P : σ → Prop}
    (hinv : ∀ s e, I s → I (M.next s e))
    (hstep : ∀ s e, I s → P s → (P (M.next s e) ↔ C s e)) {s : σ} {es : List ε} (hI : I s)
    (h0 : P s) : M.Always P s es ↔ M.Steps C s es := by
  constructor
  · intro h
    induction es generalizing s with
    | nil => trivial
    | cons e es ih =>
        exact ⟨(hstep s e hI h0).mp h.2.head, ih (hinv s e hI) h.2.head h.2⟩
  · intro hs
    induction es generalizing s with
    | nil => exact h0
    | cons e es ih => exact ⟨h0, ih (hinv s e hI) ((hstep s e hI h0).mpr hs.1) hs.2⟩

/-- **The exact-guard rule for moments.** Steps may be asked for more than the state they end in.
When `C` is exactly what a step that meets the assumption `F` needs in order to meet `A`, the runs
all of whose steps meet `A` are the runs all of whose steps meet `C`. -/
theorem steps_iff_steps {P : σ → Prop} {F A C : σ → ε → Prop}
    (hstep : ∀ s e, P s → F s e → (A s e ↔ C s e))
    (hnext : ∀ s e, P s → F s e → A s e → P (M.next s e)) {s : σ} {es : List ε} (h0 : P s)
    (hF : M.Steps F s es) : M.Steps A s es ↔ M.Steps C s es := by
  induction es generalizing s with
  | nil => exact Iff.rfl
  | cons e es ih =>
      have hhead := hstep s e h0 hF.1
      constructor
      · rintro ⟨hA, hs⟩
        exact ⟨hhead.mp hA, (ih (hnext s e h0 hF.1 hA) hF.2).mp hs⟩
      · rintro ⟨hC, hs⟩
        have hA := hhead.mpr hC
        exact ⟨hA, (ih (hnext s e h0 hF.1 hA) hF.2).mpr hs⟩

/-- **The exact-guard rule for outputs.** When `C` is exactly what a step from a state with `P`
needs in order to output only what `O` allows, and such a step keeps `P`, the runs that output only
what is allowed are the runs all of whose steps meet `C`. -/
theorem outs_iff_steps {C : σ → ε → Prop} {P : σ → Prop} {O : ο → Prop}
    (hout : ∀ s e, P s → ((∀ o ∈ M.emit s e, O o) ↔ C s e))
    (hnext : ∀ s e, P s → C s e → P (M.next s e)) {s : σ} {es : List ε} (h0 : P s) :
    (∀ o ∈ M.outs s es, O o) ↔ M.Steps C s es := by
  induction es generalizing s with
  | nil => simp
  | cons e es ih =>
      rw [outs_cons, List.forall_mem_append, steps_cons, hout s e h0]
      constructor
      · rintro ⟨hC, ho⟩
        exact ⟨hC, (ih (hnext s e h0 hC)).mp ho⟩
      · rintro ⟨hC, hs⟩
        exact ⟨hC, (ih (hnext s e h0 hC)).mpr hs⟩

/-! ## Histories

The events before a moment, newest first.  What a machine keeps of them, and what it outputs, may be
read off them without its state. -/

section Histories

variable {α γ : Type*}

lemma run_reverse_cons (s : σ) (e : ε) (history : List ε) :
    M.run s (e :: history).reverse = M.next (M.run s history.reverse) e := by
  rw [List.reverse_cons, run_append]
  rfl

/-- **The rule of the latest.**  A part of the state that each event sets or leaves alone is what
the latest event that sets it has set it to. -/
theorem run_latest (get : σ → γ) {sets : ε → Option γ}
    (hsets : ∀ s e, get (M.next s e) = (sets e).getD (get s)) (s : σ) (history : List ε) :
    get (M.run s history.reverse) = (history.findSome? sets).getD (get s) := by
  induction history with
  | nil => rfl
  | cons e history ih =>
      rw [run_reverse_cons, hsets, ih, List.findSome?_cons]
      cases sets e with
      | none => rfl
      | some v => rfl

/-- What is told event by event, each with the events before it. -/
def overHistory (told : List ε → ε → List α) : List ε → List ε → List α
  | _, [] => []
  | history, e :: es => told history e ++ overHistory told (e :: history) es

/-- Outputs that are read off the history step by step are read off it in every run. -/
theorem filterMap_outs {s : σ} {f : ο → Option α} {told : List ε → ε → List α}
    (hstep : ∀ history e, (M.emit (M.run s history.reverse) e).filterMap f = told history e)
    (history es : List ε) :
    (M.outs (M.run s history.reverse) es).filterMap f = overHistory told history es := by
  induction es generalizing history with
  | nil => rfl
  | cons e es ih =>
      rw [outs_cons, List.filterMap_append, hstep, ← run_reverse_cons, ih]
      rfl

end Histories

/-! ## Monitors

A monitor watches a run from outside: it sees each event with the state it is taken from and the
outputs it causes, keeps a value of its own, and gives up, with `none`, at the first step that
breaks the law it checks. -/

/-- The monitor's value after a run, `none` once it has given up. -/
def watch {μ : Type*} (M : Machine σ ε ο) (check : μ → σ → ε → List ο → Option μ) :
    μ → σ → List ε → Option μ
  | m, _, [] => some m
  | m, s, e :: es => (check m s e (M.emit s e)).bind fun m' => watch M check m' (M.next s e) es

/-- **The monitor rule.** If the monitor never gives up on a step from states related to its value,
and the relation is kept, then it gives up on no run. -/
theorem watch_of_steps {μ : Type*} {check : μ → σ → ε → List ο → Option μ} {C : σ → ε → Prop}
    {R : μ → σ → Prop}
    (hstep : ∀ m s e, R m s → C s e →
      ∃ m', check m s e (M.emit s e) = some m' ∧ R m' (M.next s e))
    {m : μ} {s : σ} {es : List ε} (h0 : R m s) (hs : M.Steps C s es) :
    ∃ m', M.watch check m s es = some m' ∧ R m' (M.run s es) := by
  induction es generalizing m s with
  | nil => exact ⟨m, rfl, h0⟩
  | cons e es ih =>
      obtain ⟨m', hcheck, hm'⟩ := hstep m s e h0 hs.1
      simp only [watch, hcheck, Option.bind_some, run_cons]
      exact ih hm' hs.2

end Machine

end LocHal
