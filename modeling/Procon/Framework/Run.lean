import Mathlib.Data.List.Flatten
import Mathlib.Data.List.Induction
import Mathlib.Data.List.Infix
import Mathlib.Tactic.Common

/-!
# Runs of a partial step function

A system is a function `step : σ → ε → Option σ`: `step s e = none` says that the event `e`
cannot happen in the state `s`.  Every choice of the environment is part of the event, so a run
is determined by its first state and its list of events, and every run can be evaluated.

## The interface

* `run step s₀ tr` is the state after the events `tr`, and `steps step s₀ tr` the list of the
  steps taken, each with the state it was taken in.
* `Visits step s₀ tr s` says that the run passes through the state `s`, its first and last
  states included; `Takes step s₀ tr s e` that it takes the step `e` in the state `s`.
* `run_induction` is induction over runs, from which `run_invariant` and
  `takes_invariant` follow.
* `forall_visits_iff_forall_takes` turns a fact about one step into an *exact* condition on
  runs: where a step out of a good state ends in a good state exactly when it meets `C`, a run
  visits good states only exactly when all its steps meet `C`.
* `exists_run_of_simulation` carries a run from one system to another that simulates it, and
  `run_of_projection` to one that sees less of each state and each event; `run_of_expansion` does
  the same where an event is seen as several ones, or not at all.
* `lastValue f tr` is the last value that the events of a list carry, and `yields g tr` lists what
  they yield, each with the events before it; both unfold at the last event.
* `eq_of_nodup_flatMap` and `nodup_map_filterMap` are about events that bring fresh names along;
  `flatMap_steps` says that the steps of a run hold what its events hold.
* `register_iff`, `flag_iff` and `forall_flag_imp_register_iff` relate what a state says to the
  history of the run: the value last written to a register, and whether a flag was ever set.

The last section is about sequential programs that may stop between any two of their steps:
`runFor` is the store such a program leaves, `completes` whether it gets to its end, and both are
described for two programs in a row and for a program on a part of the store.
-/

namespace LabelledRun

variable {σ τ ε : Type*} {step : σ → ε → Option σ} {s₀ s s' t : σ} {e : ε} {tr : List ε}

/-! ## Runs and their steps -/

/-- The state after the events of a list, `none` when one of them cannot happen. -/
def run (step : σ → ε → Option σ) : σ → List ε → Option σ
  | s, [] => some s
  | s, e :: tr => (step s e).bind (run step · tr)

/-- The steps a run takes, each with the state it is taken in. -/
def steps (step : σ → ε → Option σ) : σ → List ε → List (σ × ε)
  | _, [] => []
  | s, e :: tr => (s, e) :: ((step s e).map (steps step · tr)).getD []

/-- The run of `tr` from `s₀` passes through the state `s`. -/
def Visits (step : σ → ε → Option σ) (s₀ : σ) (tr : List ε) (s : σ) : Prop :=
  ∃ done rest, tr = done ++ rest ∧ run step s₀ done = some s

/-- The run of `tr` from `s₀` takes the step `e` in the state `s`. -/
def Takes (step : σ → ε → Option σ) (s₀ : σ) (tr : List ε) (s : σ) (e : ε) : Prop :=
  (s, e) ∈ steps step s₀ tr

@[simp] lemma run_nil : run step s [] = some s := rfl

@[simp] lemma run_cons : run step s (e :: tr) = (step s e).bind (run step · tr) := rfl

@[simp] lemma steps_nil : steps step s [] = [] := rfl

lemma run_append (p q : List ε) :
    run step s (p ++ q) = (run step s p).bind (run step · q) := by
  induction p generalizing s with
  | nil => rfl
  | cons e p ih =>
      cases h : step s e with
      | none => simp [h]
      | some u => simp [h, ih]

lemma run_append_of_eq {p q : List ε} (hp : run step s₀ p = some s) :
    run step s₀ (p ++ q) = run step s q := by
  rw [run_append, hp, Option.bind_some]

lemma run_concat_eq_some :
    run step s₀ (tr ++ [e]) = some t ↔ ∃ s, run step s₀ tr = some s ∧ step s e = some t := by
  rw [run_append, Option.bind_eq_some_iff]
  simp

lemma exists_of_run_append {p q : List ε} (h : run step s₀ (p ++ q) = some t) :
    ∃ s, run step s₀ p = some s ∧ run step s q = some t := by
  rw [run_append, Option.bind_eq_some_iff] at h
  exact h

lemma exists_of_run_append_cons {p q : List ε} (h : run step s₀ (p ++ e :: q) = some t) :
    ∃ s s', run step s₀ p = some s ∧ step s e = some s' ∧ run step s' q = some t := by
  obtain ⟨s, hp, hq⟩ := exists_of_run_append h
  rw [run_cons, Option.bind_eq_some_iff] at hq
  obtain ⟨s', he, hq⟩ := hq
  exact ⟨s, s', hp, he, hq⟩

lemma steps_cons_of_eq (h : step s e = some s') :
    steps step s (e :: tr) = (s, e) :: steps step s' tr := by
  simp [steps, h]

lemma steps_append {p q : List ε} (hp : run step s₀ p = some s) :
    steps step s₀ (p ++ q) = steps step s₀ p ++ steps step s q := by
  induction p generalizing s₀ with
  | nil => simp only [run_nil, Option.some.injEq] at hp; simp [hp]
  | cons e p ih =>
      rw [run_cons, Option.bind_eq_some_iff] at hp
      obtain ⟨u, hu, hp⟩ := hp
      rw [List.cons_append, steps_cons_of_eq hu, steps_cons_of_eq hu, ih hp, List.cons_append]

lemma steps_concat (h : run step s₀ tr = some s) :
    steps step s₀ (tr ++ [e]) = steps step s₀ tr ++ [(s, e)] := by
  rw [steps_append h]
  cases hs : step s e <;> simp [steps, hs]

lemma steps_singleton : steps step s [e] = [(s, e)] := by
  have hnil : run step s [] = some s := rfl
  exact steps_concat hnil

/-- The steps of a run are its events, each with a state. -/
lemma map_snd_steps (h : run step s₀ tr = some t) : (steps step s₀ tr).map Prod.snd = tr := by
  induction tr generalizing s₀ with
  | nil => rfl
  | cons e tr ih =>
      rw [run_cons, Option.bind_eq_some_iff] at h
      obtain ⟨u, hu, h⟩ := h
      rw [steps_cons_of_eq hu, List.map_cons, ih h]

/-- What the events of a run hold is what its steps hold. -/
lemma flatMap_steps {α : Type*} {f : ε → List α} (h : run step s₀ tr = some t) :
    ((steps step s₀ tr).flatMap fun x => f x.2) = tr.flatMap f := by
  have hmap : ((steps step s₀ tr).map Prod.snd).flatMap f =
      (steps step s₀ tr).flatMap fun x => f x.2 := List.flatMap_map ..
  rw [← hmap, map_snd_steps h]

/-- A cut of the list of steps is a cut of the list of events. -/
lemma exists_of_steps_eq {p q : List (σ × ε)} {x : σ × ε} (hx : steps step s₀ tr = p ++ x :: q) :
    ∃ done rest, tr = done ++ x.2 :: rest ∧ run step s₀ done = some x.1 ∧
      steps step s₀ done = p := by
  induction p generalizing s₀ tr with
  | nil =>
      cases tr with
      | nil => simp at hx
      | cons e tr =>
          simp only [steps, List.nil_append, List.cons.injEq] at hx
          obtain ⟨rfl, -⟩ := hx
          exact ⟨[], tr, rfl, rfl, rfl⟩
  | cons y p ih =>
      cases tr with
      | nil => simp at hx
      | cons e tr =>
          cases hu : step s₀ e with
          | none => simp [steps, hu] at hx
          | some u =>
              rw [steps_cons_of_eq hu, List.cons_append, List.cons.injEq] at hx
              obtain ⟨rfl, hx⟩ := hx
              obtain ⟨done, rest, rfl, hdone, rfl⟩ := ih hx
              exact ⟨e :: done, rest, rfl, by simp [hu, hdone], steps_cons_of_eq hu⟩

lemma takes_iff :
    Takes step s₀ tr s e ↔ ∃ done rest, tr = done ++ e :: rest ∧ run step s₀ done = some s := by
  constructor
  · intro hx
    obtain ⟨p, q, hpq⟩ := List.append_of_mem hx
    obtain ⟨done, rest, hdone, hs, -⟩ := exists_of_steps_eq hpq
    exact ⟨done, rest, hdone, hs⟩
  · rintro ⟨done, rest, rfl, hs⟩
    rw [Takes, steps_append hs, steps, List.mem_append]
    exact Or.inr List.mem_cons_self

lemma takes_concat (h : run step s₀ tr = some s) {u : σ} {f : ε} :
    Takes step s₀ (tr ++ [e]) u f ↔ Takes step s₀ tr u f ∨ (u = s ∧ f = e) := by
  rw [Takes, steps_concat h, List.mem_append, List.mem_singleton, Prod.mk.injEq]
  rfl

/-- A run goes on from every step it takes. -/
lemma Takes.exists_next (ht : Takes step s₀ tr s e) (h : run step s₀ tr = some t) :
    ∃ s', step s e = some s' ∧ Visits step s₀ tr s' := by
  obtain ⟨done, rest, rfl, hs⟩ := takes_iff.mp ht
  obtain ⟨u, s', hu, he, -⟩ := exists_of_run_append_cons h
  obtain rfl : u = s := by rw [hs] at hu; exact (Option.some.inj hu).symm
  refine ⟨s', he, done ++ [e], rest, by simp, ?_⟩
  exact run_concat_eq_some.mpr ⟨u, hu, he⟩

lemma Takes.mem (ht : Takes step s₀ tr s e) : e ∈ tr := by
  obtain ⟨done, rest, rfl, -⟩ := takes_iff.mp ht
  exact List.mem_append_right _ List.mem_cons_self

lemma Takes.visits (ht : Takes step s₀ tr s e) : Visits step s₀ tr s := by
  obtain ⟨done, rest, rfl, hs⟩ := takes_iff.mp ht
  exact ⟨done, e :: rest, rfl, hs⟩

lemma visits_self (h : run step s₀ tr = some t) : Visits step s₀ tr t :=
  ⟨tr, [], by simp, h⟩

lemma Visits.append (hv : Visits step s₀ tr s) (rest : List ε) :
    Visits step s₀ (tr ++ rest) s := by
  obtain ⟨p, q, rfl, hs⟩ := hv
  exact ⟨p, q ++ rest, by simp, hs⟩

lemma Takes.append (ht : Takes step s₀ tr s e) (h : run step s₀ tr = some t) (rest : List ε) :
    Takes step s₀ (tr ++ rest) s e := by
  rw [Takes, steps_append h]
  exact List.mem_append_left _ ht

/-- The states a run passes through are those it takes steps in, and its last. -/
lemma forall_visits_of_steps {P : σ → Prop} (h : run step s₀ tr = some t)
    (hsteps : ∀ x ∈ steps step s₀ tr, P x.1) (ht : P t) :
    ∀ s, Visits step s₀ tr s → P s := by
  rintro s ⟨done, rest, rfl, hs⟩
  cases rest with
  | nil =>
      rw [List.append_nil] at h
      obtain rfl : s = t := Option.some.inj (hs.symm.trans h)
      exact ht
  | cons e rest => exact hsteps (s, e) (takes_iff.mpr ⟨done, rest, rfl, hs⟩)

/-! ## Induction over runs -/

/-- Induction over runs, adding one step at the end. -/
theorem run_induction {P : List ε → σ → Prop} (hstart : P [] s₀)
    (hstep : ∀ tr s e s', run step s₀ tr = some s → P tr s → step s e = some s' →
      P (tr ++ [e]) s') (h : run step s₀ tr = some t) : P tr t := by
  induction tr using List.reverseRecOn generalizing t with
  | nil => simp only [run_nil, Option.some.injEq] at h; exact h ▸ hstart
  | append_singleton tr e ih =>
      obtain ⟨s, hs, he⟩ := run_concat_eq_some.mp h
      exact hstep tr s e t hs (ih hs) he

/-- What every step preserves holds at the end of every run. -/
theorem run_invariant {P : σ → Prop} (hstart : P s₀)
    (hstep : ∀ s e s', P s → step s e = some s' → P s') (h : run step s₀ tr = some t) : P t :=
  run_induction (P := fun _ s => P s) hstart
    (fun _ s e s' _ hs he => hstep s e s' hs he) h

theorem visits_invariant {P : σ → Prop} (hstart : P s₀)
    (hstep : ∀ s e s', P s → step s e = some s' → P s') (hv : Visits step s₀ tr s) : P s := by
  obtain ⟨done, -, -, hs⟩ := hv
  exact run_invariant hstart hstep hs

/-- What the steps of a run that meet a condition preserve holds wherever a run passes all of
whose steps meet it. -/
theorem takes_invariant {P : σ → Prop} {C : σ → ε → Prop} (hstart : P s₀)
    (hstep : ∀ s e s', P s → C s e → step s e = some s' → P s')
    (h : run step s₀ tr = some t) (hC : ∀ s e, Takes step s₀ tr s e → C s e) : P t := by
  revert hC
  refine run_induction (P := fun tr s => (∀ u e, Takes step s₀ tr u e → C u e) → P s)
    (fun _ => hstart) ?_ h
  intro tr s e s' hs ih he hC
  refine hstep s e s' (ih fun u f hu => hC u f ?_) (hC s e ?_) he
  · exact (takes_concat hs).mpr (Or.inl hu)
  · exact (takes_concat hs).mpr (Or.inr ⟨rfl, rfl⟩)

/-- **Exact conditions on runs.**  Where a step out of a good state ends in a good state exactly
when it meets `C`, a run passes through good states only exactly when all its steps meet `C`. -/
theorem forall_visits_iff_forall_takes {I P : σ → Prop} {C : σ → ε → Prop} (hI : I s₀)
    (hIstep : ∀ s e s', I s → step s e = some s' → I s') (hP : P s₀)
    (hstep : ∀ s e s', I s → P s → step s e = some s' → (P s' ↔ C s e))
    (h : run step s₀ tr = some t) :
    (∀ s, Visits step s₀ tr s → P s) ↔ ∀ s e, Takes step s₀ tr s e → C s e := by
  constructor
  · intro hv s e ht
    obtain ⟨s', he, hs'⟩ := ht.exists_next h
    have hs := ht.visits
    exact (hstep s e s' (visits_invariant hI hIstep hs) (hv s hs) he).mp (hv s' hs')
  · rintro hC s ⟨done, rest, rfl, hs⟩
    have hsub : ∀ u f, Takes step s₀ done u f → C u f := fun u f hu => hC u f (hu.append hs rest)
    have hboth : I s ∧ P s := takes_invariant (P := fun s => I s ∧ P s) ⟨hI, hP⟩
      (fun u f u' hu hCu he =>
        ⟨hIstep u f u' hu.1 he, (hstep u f u' hu.1 hu.2 he).mpr hCu⟩) hs hsub
    exact hboth.2

/-! ## Simulation -/

section Simulation

variable {σ' : Type*} {step' : σ' → ε → Option σ'} {u₀ : σ'}

/-- **Simulation.**  What one system can do another can do as well, and related states stay
related. -/
theorem exists_run_of_simulation {R : σ → σ' → Prop} (hstart : R s₀ u₀)
    (hstep : ∀ s u e s', R s u → step s e = some s' → ∃ u', step' u e = some u' ∧ R s' u')
    (h : run step s₀ tr = some t) : ∃ u, run step' u₀ tr = some u ∧ R t u := by
  refine run_induction (P := fun tr s => ∃ u, run step' u₀ tr = some u ∧ R s u)
    ⟨u₀, rfl, hstart⟩ ?_ h
  rintro tr s e s' - ⟨u, hu, hR⟩ he
  obtain ⟨u', he', hR'⟩ := hstep s u e s' hR he
  exact ⟨u', run_concat_eq_some.mpr ⟨u, hu, he'⟩, hR'⟩

end Simulation

section Projection

variable {σ' ε' : Type*} {step' : σ' → ε' → Option σ'} {f : σ → σ'} {g : σ → ε → ε'}

/-- **Projection.**  Where every step of a system is seen as a step of another one, so is every
run, and its steps are seen one by one. -/
theorem run_of_projection
    (hstep : ∀ s e s', step s e = some s' → step' (f s) (g s e) = some (f s'))
    (h : run step s₀ tr = some t) :
    run step' (f s₀) ((steps step s₀ tr).map fun x => g x.1 x.2) = some (f t) ∧
      steps step' (f s₀) ((steps step s₀ tr).map fun x => g x.1 x.2) =
        (steps step s₀ tr).map fun x => (f x.1, g x.1 x.2) := by
  refine run_induction (P := fun tr s =>
    run step' (f s₀) ((steps step s₀ tr).map fun x => g x.1 x.2) = some (f s) ∧
      steps step' (f s₀) ((steps step s₀ tr).map fun x => g x.1 x.2) =
        (steps step s₀ tr).map fun x => (f x.1, g x.1 x.2)) ⟨rfl, rfl⟩ ?_ h
  rintro tr s e s' hs ⟨hrun, hsteps⟩ he
  rw [steps_concat hs, List.map_append, List.map_singleton, List.map_append, List.map_singleton]
  constructor
  · exact run_concat_eq_some.mpr ⟨f s, hrun, hstep s e s' he⟩
  · rw [steps_concat hrun, hsteps]

end Projection

section Expansion

variable {σ' ε' : Type*} {step' : σ' → ε' → Option σ'} {f : σ → σ'} {g : σ → ε → List ε'}

/-- **Expansion.**  Where every step of a system is seen as a few steps of another one, or as none,
so is every run, and its steps are seen one after the other. -/
theorem run_of_expansion
    (hstep : ∀ s e s', step s e = some s' → run step' (f s) (g s e) = some (f s'))
    (h : run step s₀ tr = some t) :
    run step' (f s₀) ((steps step s₀ tr).flatMap fun x => g x.1 x.2) = some (f t) ∧
      steps step' (f s₀) ((steps step s₀ tr).flatMap fun x => g x.1 x.2) =
        (steps step s₀ tr).flatMap fun x => steps step' (f x.1) (g x.1 x.2) := by
  refine run_induction (P := fun tr s =>
    run step' (f s₀) ((steps step s₀ tr).flatMap fun x => g x.1 x.2) = some (f s) ∧
      steps step' (f s₀) ((steps step s₀ tr).flatMap fun x => g x.1 x.2) =
        (steps step s₀ tr).flatMap fun x => steps step' (f x.1) (g x.1 x.2)) ⟨rfl, rfl⟩ ?_ h
  rintro tr s e s' hs ⟨hrun, hsteps⟩ he
  rw [steps_concat hs, List.flatMap_append, List.flatMap_append, List.flatMap_singleton,
    List.flatMap_singleton]
  constructor
  · rw [run_append_of_eq hrun]
    exact hstep s e s' he
  · rw [steps_append hrun, hsteps]

end Expansion

/-! ## What a list of events tells by itself -/

section Values

variable {α : Type*} {f : ε → Option α} {g : List ε → ε → Option α} {a : α}

/-- The last value that the events of a list carry. -/
def lastValue (f : ε → Option α) (tr : List ε) : Option α := (tr.filterMap f).getLast?

/-- What the events of a list yield, given the events before them. -/
def yields (g : List ε → ε → Option α) (tr : List ε) : List α :=
  tr.inits.filterMap fun done => done.getLast?.bind (g done.dropLast)

lemma lastValue_concat : lastValue f (tr ++ [e]) = (f e).or (lastValue f tr) := by
  cases h : f e <;> simp [lastValue, h]

/-- Events without a value leave the last one. -/
lemma lastValue_append_of_forall {p q : List ε} (h : ∀ e ∈ q, f e = none) :
    lastValue f (p ++ q) = lastValue f p := by
  rw [lastValue, List.filterMap_append, List.filterMap_eq_nil_iff.mpr h, List.append_nil, lastValue]

lemma exists_of_lastValue_eq (h : lastValue f tr = some a) : ∃ e ∈ tr, f e = some a :=
  List.mem_filterMap.mp (List.mem_of_getLast? h)

lemma isSome_lastValue (he : e ∈ tr) (ha : f e = some a) : (lastValue f tr).isSome := by
  rw [lastValue, List.getLast?_isSome]
  exact List.ne_nil_of_mem (List.mem_filterMap.mpr ⟨e, he, ha⟩)

lemma yields_concat : yields g (tr ++ [e]) = yields g tr ++ (g tr e).toList := by
  cases h : g tr e <;> simp [yields, List.inits_append, h]

end Values

section Fresh

variable {α β γ : Type*} {l : List α} {f : α → List γ} {F : α → Option β} {G : β → γ}

/-- Where no name is given twice, a name tells what it was given to. -/
lemma eq_of_nodup_flatMap (h : (l.flatMap f).Nodup) {a b : α} {x : γ} (ha : a ∈ l) (hb : b ∈ l)
    (hxa : x ∈ f a) (hxb : x ∈ f b) : a = b := by
  induction l with
  | nil => cases ha
  | cons c l ih =>
      rw [List.flatMap_cons, List.nodup_append] at h
      obtain ⟨-, hrest, hdisjoint⟩ := h
      rcases List.mem_cons.mp ha with rfl | ha' <;> rcases List.mem_cons.mp hb with rfl | hb'
      · rfl
      · exact absurd rfl (hdisjoint x hxa x (List.mem_flatMap.mpr ⟨b, hb', hxb⟩))
      · exact absurd rfl (hdisjoint x hxb x (List.mem_flatMap.mpr ⟨a, ha', hxa⟩))
      · exact ih hrest ha' hb'

/-- What is found under fresh names has different names. -/
lemma nodup_map_filterMap (h : (l.flatMap f).Nodup)
    (hname : ∀ a ∈ l, ∀ b, F a = some b → G b ∈ f a) : ((l.filterMap F).map G).Nodup := by
  refine h.sublist ?_
  rw [List.map_filterMap, List.filterMap_eq_flatMap_toList]
  refine List.Sublist.flatMap_right l fun a ha => ?_
  cases hfound : F a with
  | none => exact List.nil_sublist _
  | some b => exact List.singleton_sublist.mpr (hname a ha b hfound)

/-- Names that no two events of a run share are shared by no two of its steps. -/
lemma nodup_flatMap_steps {names : ε → List γ} (h : run step s₀ tr = some t)
    (hnodup : (tr.flatMap names).Nodup) :
    ((steps step s₀ tr).flatMap fun x => names x.2).Nodup := by
  rwa [flatMap_steps h]

end Fresh

/-! ## What a state tells about the history of its run -/

section History

variable {U F : σ → Prop} {good bad sets : σ → ε → Prop}

/-- **The last write to a register.**  `good` steps make `U` true, `bad` steps make it false and
all others leave it alone; then `U` holds at the end of a run exactly when some good step is
followed by no bad one. -/
theorem register_iff (hstart : ¬ U s₀)
    (hgood : ∀ s e s', step s e = some s' → good s e → U s')
    (hbad : ∀ s e s', step s e = some s' → bad s e → ¬ U s')
    (hkeep : ∀ s e s', step s e = some s' → ¬ good s e → ¬ bad s e → (U s' ↔ U s))
    (h : run step s₀ tr = some t) :
    U t ↔ ∃ p x q, steps step s₀ tr = p ++ x :: q ∧ good x.1 x.2 ∧
      ∀ y ∈ q, ¬ bad y.1 y.2 := by
  refine run_induction (P := fun tr s => U s ↔ ∃ p x q, steps step s₀ tr = p ++ x :: q ∧
    good x.1 x.2 ∧ ∀ y ∈ q, ¬ bad y.1 y.2) ?_ ?_ h
  · simpa using hstart
  · intro tr s e s' hs ih he
    rw [steps_concat hs]
    constructor
    · intro hU
      by_cases hg : good s e
      · exact ⟨steps step s₀ tr, (s, e), [], rfl, hg, by simp⟩
      · have hnb : ¬ bad s e := fun hb => hbad s e s' he hb hU
        obtain ⟨p, x, q, hpq, hx, hq⟩ := ih.mp ((hkeep s e s' he hg hnb).mp hU)
        refine ⟨p, x, q ++ [(s, e)], by simp [hpq], hx, ?_⟩
        intro y hy
        rcases List.mem_append.mp hy with hy | hy
        · exact hq y hy
        · rw [List.mem_singleton.mp hy]
          exact hnb
    · rintro ⟨p, x, q, hpq, hx, hq⟩
      rcases List.eq_nil_or_concat q with rfl | ⟨q, y, rfl⟩
      · obtain ⟨-, hlast⟩ := List.append_inj' hpq rfl
        obtain rfl : (s, e) = x := List.singleton_inj.mp hlast
        exact hgood s e s' he hx
      · rw [List.concat_eq_append] at hpq hq
        rw [← List.cons_append, ← List.append_assoc] at hpq
        obtain ⟨hfront, hlast⟩ := List.append_inj' hpq rfl
        obtain rfl : (s, e) = y := List.singleton_inj.mp hlast
        by_cases hg : good s e
        · exact hgood s e s' he hg
        · refine (hkeep s e s' he hg (hq (s, e) (by simp))).mpr (ih.mpr ⟨p, x, q, hfront, hx, ?_⟩)
          exact fun y hy => hq y (List.mem_append_left _ hy)

/-- **A flag that is never cleared** is up exactly when some step has set it. -/
theorem flag_iff (hstart : ¬ F s₀)
    (hset : ∀ s e s', step s e = some s' → (F s' ↔ F s ∨ sets s e))
    (h : run step s₀ tr = some t) : F t ↔ ∃ s e, Takes step s₀ tr s e ∧ sets s e := by
  refine run_induction (P := fun tr s => F s ↔ ∃ u e, Takes step s₀ tr u e ∧ sets u e) ?_ ?_ h
  · simpa [Takes] using hstart
  · intro tr s e s' hs ih he
    rw [hset s e s' he, ih]
    constructor
    · rintro (⟨u, f, hu, hf⟩ | hse)
      · exact ⟨u, f, (takes_concat hs).mpr (Or.inl hu), hf⟩
      · exact ⟨s, e, (takes_concat hs).mpr (Or.inr ⟨rfl, rfl⟩), hse⟩
    · rintro ⟨u, f, hu, hf⟩
      rcases (takes_concat hs).mp hu with hu | ⟨rfl, rfl⟩
      · exact Or.inl ⟨u, f, hu, hf⟩
      · exact Or.inr hf

lemma flag_of_visits (hset : ∀ s e s', step s e = some s' → (F s' ↔ F s ∨ sets s e))
    (hF : F s) (h : run step s tr = some t) : F t :=
  run_invariant (P := F) hF (fun u e u' hu he => (hset u e u' he).mpr (Or.inl hu)) h

variable (U F good bad sets) in
/-- **A flag that needs a register.**  Wherever the flag `F` is up the register `U` holds, all
along the run, exactly when every step that sets the flag comes after a good write that no bad
write follows, be it before or after the flag is set. -/
theorem forall_flag_imp_register_iff (hU : ¬ U s₀) (hF : ¬ F s₀)
    (hgood : ∀ s e s', step s e = some s' → good s e → U s')
    (hbad : ∀ s e s', step s e = some s' → bad s e → ¬ U s')
    (hkeep : ∀ s e s', step s e = some s' → ¬ good s e → ¬ bad s e → (U s' ↔ U s))
    (hset : ∀ s e s', step s e = some s' → (F s' ↔ F s ∨ sets s e))
    (hdisj : ∀ s e, sets s e → ¬ good s e) (h : run step s₀ tr = some t) :
    (∀ s, Visits step s₀ tr s → F s → U s) ↔
      ∀ p x q, steps step s₀ tr = p ++ x :: q → sets x.1 x.2 →
        ∃ p₁ y p₂, p = p₁ ++ y :: p₂ ∧ good y.1 y.2 ∧ ∀ z ∈ p₂ ++ x :: q, ¬ bad z.1 z.2 := by
  constructor
  · intro hv p x q hpq hx
    obtain ⟨done, rest, rfl, hdone, rfl⟩ := exists_of_steps_eq hpq
    obtain ⟨u, u', hu, he, hrest⟩ := exists_of_run_append_cons h
    obtain rfl : u = x.1 := by rw [hdone] at hu; exact (Option.some.inj hu).symm
    have hrun : run step s₀ (done ++ [x.2]) = some u' := run_concat_eq_some.mpr ⟨x.1, hu, he⟩
    have hFu : F u' := (hset _ _ _ he).mpr (Or.inr hx)
    have hq : q = steps step u' rest := by
      rw [steps_append hdone, steps_cons_of_eq he] at hpq
      exact (List.cons.inj (List.append_cancel_left hpq)).2.symm
    -- the good write before the flag goes up
    have hUu : U u' := hv u' ⟨done ++ [x.2], rest, by simp, hrun⟩ hFu
    obtain ⟨p₁, y, p₂, hcut, hy, hp₂⟩ := (register_iff hU hgood hbad hkeep hrun).mp hUu
    rw [steps_concat hdone] at hcut
    rcases List.eq_nil_or_concat p₂ with rfl | ⟨p₂, z, rfl⟩
    · obtain ⟨-, hlast⟩ := List.append_inj' hcut rfl
      obtain rfl : (x.1, x.2) = y := List.singleton_inj.mp hlast
      exact absurd hy (hdisj _ _ hx)
    · rw [List.concat_eq_append] at hcut hp₂
      rw [← List.cons_append, ← List.append_assoc] at hcut
      obtain ⟨hfront, hlast⟩ := List.append_inj' hcut rfl
      obtain rfl : (x.1, x.2) = z := List.singleton_inj.mp hlast
      refine ⟨p₁, y, p₂, hfront, hy, ?_⟩
      intro z hz
      rcases List.mem_append.mp hz with hz | hz
      · exact hp₂ z (List.mem_append_left _ hz)
      rcases List.mem_cons.mp hz with rfl | hz
      · exact hp₂ _ (by simp)
      -- a bad write after the flag is up would be seen at once
      · intro hzbad
        rw [hq] at hz
        obtain ⟨w, hw, d, r, hdr, hw'⟩ := Takes.exists_next hz hrest
        have hFw : F w := flag_of_visits hset hFu hw'
        refine hbad _ _ _ hw hzbad (hv w ⟨done ++ x.2 :: d, r, by simp [hdr], ?_⟩ hFw)
        rw [run_append_of_eq hdone, run_cons, he, Option.bind_some, hw']
  · rintro hall s ⟨done, rest, rfl, hs⟩ hFs
    obtain ⟨u, e, hue, hsets⟩ := (flag_iff hF hset hs).mp hFs
    obtain ⟨p, q, hpq⟩ := List.append_of_mem hue
    have hsplit : steps step s₀ (done ++ rest) = p ++ (u, e) :: (q ++ steps step s rest) := by
      rw [steps_append hs, hpq]
      simp
    obtain ⟨p₁, y, p₂, rfl, hy, hclean⟩ := hall p (u, e) _ hsplit hsets
    refine (register_iff hU hgood hbad hkeep hs).mpr ⟨p₁, y, p₂ ++ (u, e) :: q, ?_, hy, ?_⟩
    · rw [hpq]
      simp
    · intro z hz
      refine hclean z ?_
      rcases List.mem_append.mp hz with hz | hz
      · exact List.mem_append_left _ hz
      · refine List.mem_append_right _ ?_
        rcases List.mem_cons.mp hz with rfl | hz
        · exact List.mem_cons_self
        · exact List.mem_cons_of_mem _ (List.mem_append_left _ hz)

end History

/-! ## Sequential programs that may stop

A program is a list of atomic steps on a store.  A step may trap, and the process may end
between any two steps; either way the store stays as the last whole step left it. -/

/-- The store after at most `n` steps of a program. -/
def runFor : ℕ → List (σ → Except τ σ) → σ → σ
  | 0, _, s => s
  | _ + 1, [], s => s
  | n + 1, op :: ops, s =>
      match op s with
      | .ok s' => runFor n ops s'
      | .error _ => s

/-- The outcome of a program that nothing interrupts. -/
def runAll (ops : List (σ → Except τ σ)) (s : σ) : Except τ σ :=
  ops.foldlM (fun s op => op s) s

/-- The program gets to its end within `n` steps. -/
def completes : ℕ → List (σ → Except τ σ) → σ → Bool
  | _, [], _ => true
  | 0, _ :: _, _ => false
  | n + 1, op :: ops, s =>
      match op s with
      | .ok s' => completes n ops s'
      | .error _ => false

@[simp] lemma runFor_zero (ops : List (σ → Except τ σ)) : runFor 0 ops s = s := by
  cases ops <;> rfl

@[simp] lemma runFor_nil (n : ℕ) : runFor n ([] : List (σ → Except τ σ)) s = s := by
  cases n <;> rfl

@[simp] lemma completes_nil (n : ℕ) : completes n ([] : List (σ → Except τ σ)) s = true := by
  cases n <;> rfl

/-- Two programs in a row: the second one starts where the first one has ended. -/
lemma runFor_append (n : ℕ) (p q : List (σ → Except τ σ)) (s : σ) :
    runFor n (p ++ q) s =
      if completes n p s then runFor (n - p.length) q (runFor n p s) else runFor n p s := by
  induction p generalizing n s with
  | nil => simp
  | cons op p ih =>
      cases n with
      | zero => simp [completes]
      | succ n =>
          simp only [List.cons_append, runFor, completes, List.length_cons,
            Nat.add_sub_add_right]
          cases op s with
          | ok s' => exact ih n s'
          | error trap => rfl

lemma completes_append (n : ℕ) (p q : List (σ → Except τ σ)) (s : σ) :
    completes n (p ++ q) s =
      (completes n p s && completes (n - p.length) q (runFor n p s)) := by
  induction p generalizing n s with
  | nil => simp
  | cons op p ih =>
      cases n with
      | zero => simp [completes]
      | succ n =>
          simp only [List.cons_append, runFor, completes, List.length_cons,
            Nat.add_sub_add_right]
          cases op s with
          | ok s' => exact ih n s'
          | error trap => rfl

section Part

variable {α : Type*} (get : σ → α) (put : α → σ → σ)

/-- A program on a part of the store. -/
def onPart (op : α → Except τ α) (s : σ) : Except τ σ :=
  (op (get s)).map (put · s)

/-- A program on a part of the store leaves the rest of it alone. -/
lemma runFor_map_onPart (hget : ∀ a s, get (put a s) = a)
    (hput : ∀ a b s, put b (put a s) = put b s) (hself : ∀ s, put (get s) s = s) (n : ℕ)
    (ops : List (α → Except τ α)) (s : σ) :
    runFor n (ops.map (onPart get put)) s = put (runFor n ops (get s)) s ∧
      completes n (ops.map (onPart get put)) s = completes n ops (get s) := by
  induction ops generalizing n s with
  | nil => simp [hself]
  | cons op ops ih =>
      cases n with
      | zero => simp [completes, hself]
      | succ n =>
          simp only [List.map_cons, runFor, completes, onPart]
          cases op (get s) with
          | error trap => exact ⟨(hself s).symm, rfl⟩
          | ok a =>
              obtain ⟨hrun, hcompletes⟩ := ih n (put a s)
              rw [hget] at hrun hcompletes
              rw [hput] at hrun
              exact ⟨hrun, hcompletes⟩

end Part

end LabelledRun
