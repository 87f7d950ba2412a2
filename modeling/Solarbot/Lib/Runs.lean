import Mathlib.Data.List.Basic

/-!
# Runs of a labelled step

A system is given by its steps: `R s e s'` says that the event `e` can take the
state `s` to `s'`. A run is a finite list of events taken one after the other
(`Path`). The rules of the safety arguments are stated once here. A step is only
asked to preserve the invariant under a guard on the state it is taken from, and
the run meets the guard at each step (`Along`):

- `Path.guarded`: the invariant holds wherever the run ends;
- `Steps.guarded` and `Steps.congr`: what the invariant says of a single step holds
  of every step of the run (`Steps`);
- `Steps.iff_of_invariant`: the exact condition of a property of runs, step by step.

A program is often a *function* that may fault, `step : σ → ε → Except φ σ`.
`run` is its run from a state and `run_ok_iff` says that the runs that do not
fault are exactly the paths of its graph. `run_safe` is the rule for the absence
of faults (`run_total` without a guard), and `run_ok_iff_view` is the exact condition
where a part of the state decides.
-/

namespace Runs

variable {σ ε φ : Type*}

/-- `Path R s es s'`: the events `es`, taken in order from `s`, can end in `s'`. -/
def Path (R : σ → ε → σ → Prop) : σ → List ε → σ → Prop
  | s, [], s' => s' = s
  | s, e :: es, s' => ∃ m, R s e m ∧ Path R m es s'

/-- Every step of every run of `es` from `s` is taken from a state that meets
the guard `G`. -/
def Along (R : σ → ε → σ → Prop) (G : σ → ε → Prop) : σ → List ε → Prop
  | _, [] => True
  | s, e :: es => G s e ∧ ∀ m, R s e m → Along R G m es

variable {R : σ → ε → σ → Prop} {G : σ → ε → Prop} {I : σ → Prop}

/-- A guard that holds everywhere holds along every run. -/
theorem Along.of_forall (h : ∀ s e, G s e) : ∀ (es : List ε) (s : σ), Along R G s es
  | [], _ => trivial
  | e :: es, s => ⟨h s e, fun m _ => Along.of_forall h es m⟩

/-- A guard along a run, with what is known of its events. -/
theorem Along.and_mem {H : ε → Prop} : ∀ {es : List ε} {s : σ}, Along R G s es →
    (∀ e ∈ es, H e) → Along R (fun s e => G s e ∧ H e) s es
  | [], _, _, _ => trivial
  | e :: _, _, hG, hH => ⟨⟨hG.1, hH e List.mem_cons_self⟩, fun m hm =>
    Along.and_mem (hG.2 m hm) fun e' he' => hH e' (List.mem_cons_of_mem _ he')⟩

/-- A guard that follows from another one, where an invariant holds. -/
theorem Along.of_invariant {G' : σ → ε → Prop} (hinv : ∀ s e s', I s → R s e s' → I s')
    (hG : ∀ s e, I s → G s e → G' s e) :
    ∀ {es : List ε} {s : σ}, Along R G s es → I s → Along R G' s es
  | [], _, _, _ => trivial
  | e :: _, s, h, hs => ⟨hG s e hs h.1, fun m hm =>
    Along.of_invariant hinv hG (h.2 m hm) (hinv s e m hs hm)⟩

/-- A run of two lists goes through a state between them. -/
theorem path_append {es' : List ε} : ∀ {es : List ε} {s s' : σ}, Path R s (es ++ es') s' →
    ∃ m, Path R s es m ∧ Path R m es' s'
  | [], s, _, h => ⟨s, rfl, h⟩
  | _ :: _, _, _, ⟨k, hk, h⟩ => by
    obtain ⟨m, hm, hm'⟩ := path_append h
    exact ⟨m, ⟨k, hk, hm⟩, hm'⟩

/-- What every *guarded* step preserves holds at the end of every run that
meets the guard. -/
theorem Path.guarded (hstep : ∀ s e s', I s → G s e → R s e s' → I s') :
    ∀ {es : List ε} {s s' : σ}, Path R s es s' → Along R G s es → I s → I s'
  | [], _, _, hp, _, hs => by
    rw [show _ = _ from hp]
    exact hs
  | _ :: _, _, _, ⟨m, hm, hp⟩, hG, hs =>
    Path.guarded hstep hp (hG.2 m hm) (hstep _ _ m hs hG.1 hm)

/-- Every step of every run of `es` from `s` meets `Q`, a condition on the states
before and after it. -/
def Steps (R : σ → ε → σ → Prop) (Q : σ → ε → σ → Prop) : σ → List ε → Prop
  | _, [] => True
  | s, e :: es => ∀ m, R s e m → Q s e m ∧ Steps R Q m es

/-- What every guarded step from a state in the invariant meets, the steps of a
guarded run meet. -/
theorem Steps.guarded {Q : σ → ε → σ → Prop}
    (hinv : ∀ s e s', I s → G s e → R s e s' → I s')
    (hstep : ∀ s e s', I s → G s e → R s e s' → Q s e s') :
    ∀ {es : List ε} {s : σ}, Along R G s es → I s → Steps R Q s es
  | [], _, _, _ => trivial
  | _ :: _, _, hG, hs => fun m hm =>
    ⟨hstep _ _ m hs hG.1 hm, Steps.guarded hinv hstep (hG.2 m hm) (hinv _ _ m hs hG.1 hm)⟩

/-- Two conditions that agree on every guarded step from a state in the invariant
are met by the same guarded runs. -/
theorem Steps.congr {Q Q' : σ → ε → σ → Prop}
    (hinv : ∀ s e s', I s → G s e → R s e s' → I s')
    (hiff : ∀ s e s', I s → G s e → R s e s' → (Q s e s' ↔ Q' s e s')) :
    ∀ {es : List ε} {s : σ}, Along R G s es → I s → (Steps R Q s es ↔ Steps R Q' s es)
  | [], _, _, _ => Iff.rfl
  | _ :: _, _, hG, hs => forall_congr' fun m => forall_congr' fun hm =>
    and_congr (hiff _ _ m hs hG.1 hm)
      (Steps.congr hinv hiff (hG.2 m hm) (hinv _ _ m hs hG.1 hm))

/-- What every step of a run meets, the steps behind a part of it meet. -/
theorem Steps.behind {Q : σ → ε → σ → Prop} {es' : List ε} :
    ∀ {es : List ε} {s s' : σ}, Steps R Q s (es ++ es') → Path R s es s' → Steps R Q s' es'
  | [], _, _, h, hp => by
    rw [show _ = _ from hp]
    exact h
  | _ :: _, _, _, h, ⟨m, hm, hp⟩ => Steps.behind (h m hm).2 hp

/-- Two conditions that agree on every step from a state in the invariant are met by
the same runs, when the step that meets them keeps the invariant: up to the first step
that does not meet them, both see the same states. -/
theorem Steps.iff_of_invariant {Q Q' : σ → ε → σ → Prop}
    (hiff : ∀ s e s', I s → R s e s' → (Q s e s' ↔ Q' s e s'))
    (hinv : ∀ s e s', I s → R s e s' → Q s e s' → I s') :
    ∀ {es : List ε} {s : σ}, I s → (Steps R Q s es ↔ Steps R Q' s es)
  | [], _, _ => Iff.rfl
  | _ :: _, _, hs => forall_congr' fun m => forall_congr' fun hm => by
    rw [hiff _ _ m hs hm]
    apply and_congr_right
    intro hq
    exact Steps.iff_of_invariant hiff hinv (hinv _ _ m hs hm ((hiff _ _ m hs hm).mpr hq))

/-- Two conditions that agree on every step are met by the same runs. -/
theorem Steps.congr_all {Q Q' : σ → ε → σ → Prop}
    (hiff : ∀ s e s', R s e s' → (Q s e s' ↔ Q' s e s')) (s : σ) (es : List ε) :
    Steps R Q s es ↔ Steps R Q' s es :=
  Steps.iff_of_invariant (I := fun _ => True) (fun s e s' _ => hiff s e s')
    (fun _ _ _ _ _ _ => trivial) trivial

/-! ## Step functions -/

/-- What every step of a total step function preserves holds after every list of
events. -/
theorem foldl_invariant {f : σ → ε → σ} (hstep : ∀ s e, I s → I (f s e)) :
    ∀ (es : List ε) {s : σ}, I s → I (es.foldl f s)
  | [], _, hs => hs
  | e :: es, _, hs => foldl_invariant hstep es (hstep _ e hs)

/-- The states after each event are a run, when the relation has the steps of the
function. -/
theorem path_foldl {f : σ → ε → σ} (hstep : ∀ s e, R s e (f s e)) :
    ∀ (es : List ε) (s : σ), Path R s es (es.foldl f s)
  | [], _ => rfl
  | e :: es, s => ⟨f s e, hstep s e, path_foldl hstep es (f s e)⟩

/-! ## Step functions that may fault -/

/-- The state after the events `es`, or the fault of the first step that has
one. -/
def run (step : σ → ε → Except φ σ) : σ → List ε → Except φ σ
  | s, [] => .ok s
  | s, e :: es => (step s e).bind fun m => run step m es

variable {step : σ → ε → Except φ σ}

/-- The graph of a step function, as a step relation. -/
def Graph (step : σ → ε → Except φ σ) (s : σ) (e : ε) (s' : σ) : Prop := step s e = .ok s'

/-- A guard along a run can be evaluated. -/
instance decidableAlong [∀ s e, Decidable (G s e)] :
    ∀ (s : σ) (es : List ε), Decidable (Along (Graph step) G s es)
  | _, [] => instDecidableTrue
  | s, e :: es =>
    match h : step s e with
    | .ok m =>
      have := decidableAlong m es
      decidable_of_iff (G s e ∧ Along (Graph step) G m es) (and_congr_right fun _ =>
        ⟨fun hes _ hm => Except.ok.inj (h.symm.trans hm) ▸ hes, fun hes => hes m h⟩)
    | .error _ =>
      decidable_of_iff (G s e) (iff_self_and.mpr fun _ _ hm => by
        rw [Graph, h] at hm
        cases hm)

theorem run_cons_ok {s m : σ} {e : ε} {es : List ε} (h : step s e = .ok m) :
    run step s (e :: es) = run step m es := by
  rw [run, h]
  rfl

/-- The runs that do not fault are the paths of the graph. -/
theorem run_ok_iff : ∀ {es : List ε} {s s' : σ},
    run step s es = .ok s' ↔ Path (Graph step) s es s'
  | [], s, s' => by
    simp only [run, Path, Except.ok.injEq]
    exact eq_comm
  | e :: es, s, s' => by
    cases h : step s e with
    | error f => simp [run, h, Path, Graph, Except.bind]
    | ok m =>
      rw [run_cons_ok h, run_ok_iff]
      constructor
      · exact fun hp => ⟨m, h, hp⟩
      · intro hpath
        obtain ⟨m', hm', hp⟩ := hpath
        rw [Graph, h, Except.ok.injEq] at hm'
        exact hm' ▸ hp

/-- **No run faults** when the invariant rules a fault out of every guarded step
and the step preserves it. -/
theorem run_safe (hstep : ∀ s e, I s → G s e → ∃ s', step s e = .ok s' ∧ I s') :
    ∀ {es : List ε} {s : σ}, Along (Graph step) G s es → I s →
      ∃ s', run step s es = .ok s' ∧ I s'
  | [], s, _, hs => ⟨s, rfl, hs⟩
  | e :: es, s, hG, hs => by
    obtain ⟨m, hm, hI⟩ := hstep s e hs hG.1
    obtain ⟨s', hs', hI'⟩ := run_safe hstep (hG.2 m hm) hI
    exact ⟨s', by rw [run_cons_ok hm]; exact hs', hI'⟩

/-- The rule without a guard. -/
theorem run_total (hstep : ∀ s e, I s → ∃ s', step s e = .ok s' ∧ I s') (es : List ε) {s : σ}
    (hs : I s) : ∃ s', run step s es = .ok s' ∧ I s' :=
  run_safe (G := fun _ _ => True) (fun s e h _ => hstep s e h)
    (Along.of_forall (fun _ _ => trivial) es s) hs

/-- What every step writes at the end of a log, a run without a fault writes there one after
the other. -/
theorem run_log {α : Type*} {log : σ → List α} {out : ε → List α}
    (hstep : ∀ s e s', step s e = .ok s' → log s' = log s ++ out e) :
    ∀ {es : List ε} {s s' : σ}, run step s es = .ok s' → log s' = log s ++ es.flatMap out
  | [], s, s', h => by
    rw [show s = s' from Except.ok.inj h, List.flatMap_nil, List.append_nil]
  | e :: es, s, s', h => by
    obtain ⟨m, hm, hp⟩ := run_ok_iff.mp h
    rw [run_log hstep (run_ok_iff.mpr hp), hstep s e m hm, List.flatMap_cons, List.append_assoc]

section View

variable {τ : Type*} {view : σ → τ} {next : τ → ε → τ} {Q : τ → ε → Prop}

/-- What a view of the state sees of a run without a fault. -/
theorem run_view (hnext : ∀ s e s', step s e = .ok s' → view s' = next (view s) e) :
    ∀ {es : List ε} {s s' : σ}, run step s es = .ok s' → view s' = es.foldl next (view s)
  | [], s, s', h => by rw [show s = s' from Except.ok.inj h, List.foldl_nil]
  | e :: es, s, s', h => by
    obtain ⟨m, hm, hp⟩ := run_ok_iff.mp h
    rw [run_view hnext (run_ok_iff.mpr hp), hnext s e m hm, List.foldl_cons]

/-- When a view of the state tells which steps fault, it tells which runs do: each event
is judged by the view behind the events before it. -/
theorem run_ok_iff_view (hnext : ∀ s e s', step s e = .ok s' → view s' = next (view s) e)
    (hok : ∀ s e, (∃ s', step s e = .ok s') ↔ Q (view s) e) :
    ∀ {es : List ε} {s : σ}, (∃ s', run step s es = .ok s') ↔
      ∀ before e after, es = before ++ e :: after → Q (before.foldl next (view s)) e
  | [], s => iff_of_true ⟨s, rfl⟩ fun before _ _ h => by simp at h
  | e :: es, s => by
    have ih := @run_ok_iff_view hnext hok es
    constructor
    · intro hrun before e' after hes
      obtain ⟨s', h⟩ := hrun
      obtain ⟨m, hm, hp⟩ := run_ok_iff.mp h
      cases before with
      | nil =>
        obtain ⟨rfl, -⟩ := List.cons.inj hes
        exact (hok s e).mp ⟨m, hm⟩
      | cons b before =>
        obtain ⟨rfl, htail⟩ := List.cons.inj hes
        rw [List.foldl_cons, ← hnext s e m hm]
        exact ih.mp ⟨s', run_ok_iff.mpr hp⟩ before e' after htail
    · intro h
      obtain ⟨m, hm⟩ := (hok s e).mpr (h [] e es rfl)
      obtain ⟨s', hs'⟩ := (ih (s := m)).mpr fun before e' after hes => by
        rw [hnext s e m hm]
        exact h (e :: before) e' after (by rw [hes]; rfl)
      exact ⟨s', by rw [run_cons_ok hm]; exact hs'⟩

end View

end Runs
