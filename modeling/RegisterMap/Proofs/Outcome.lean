import Mathlib.Data.List.Forall2
import RegisterMap.Traced

/-!
# Outcomes of sequences

What it takes for a sequence of steps that may fail to succeed: each step succeeds, on what the one
before it gave.  A list of steps succeeds exactly if each of them does (`mapM_eq_ok_iff`), and else fails
as the first of them that does (`mapM_eq_error_iff`).  The events of traced steps have no part in that
(`Traced.result_mapM`).
-/

namespace RegisterMap

variable {ε ε' α β : Type}

theorem bind_eq_ok_iff {x : Except ε α} {f : α → Except ε β} {b : β} :
    (x >>= f) = .ok b ↔ ∃ a, x = .ok a ∧ f a = .ok b := by
  cases x with
  | error e => simp [bind, Except.bind]
  | ok a => simp [bind, Except.bind]

/-- A sequence fails at its first step or, after that has succeeded, at a later one. -/
theorem bind_eq_error_iff {x : Except ε α} {f : α → Except ε β} {e : ε} :
    (x >>= f) = .error e ↔ x = .error e ∨ ∃ a, x = .ok a ∧ f a = .error e := by
  cases x with
  | error e' => simp [bind, Except.bind]
  | ok a => simp [bind, Except.bind]

theorem ok_bind (a : α) (f : α → Except ε β) : (Except.ok a >>= f) = f a :=
  rfl

theorem error_bind (e : ε) (f : α → Except ε β) : (Except.error e >>= f) = .error e :=
  rfl

theorem bind_ok (x : Except ε α) : (x >>= fun a => Except.ok a) = x :=
  bind_pure x

/-- A check gives nothing to go on with. -/
theorem exists_unit_iff {p : Unit → Prop} : (∃ u, p u) ↔ p () :=
  ⟨fun ⟨(), h⟩ => h, fun h => ⟨(), h⟩⟩

theorem pure_eq_ok_iff {a b : α} : (pure a : Except ε α) = .ok b ↔ a = b := by
  simp [pure, Except.pure]

theorem mapError_ok (a : α) (f : ε → ε') : (Except.ok a).mapError f = .ok a :=
  rfl

theorem mapError_error (e : ε) (f : ε → ε') :
    (Except.error e : Except ε α).mapError f = .error (f e) :=
  rfl

theorem mapError_eq_ok_iff {x : Except ε α} {f : ε → ε'} {a : α} :
    x.mapError f = .ok a ↔ x = .ok a := by
  cases x with
  | error e => simp [Except.mapError]
  | ok b => simp [Except.mapError]

/-- Where a failure is put into other words there was one before. -/
theorem mapError_eq_error_iff {x : Except ε α} {f : ε → ε'} {e : ε'} :
    x.mapError f = .error e ↔ ∃ cause, x = .error cause ∧ f cause = e := by
  cases x with
  | error cause => simp [Except.mapError]
  | ok a => simp [Except.mapError]

/-- A sequence of steps goes on where the first of them has led. -/
theorem run_bind_of_run_eq {σ : Type} {x : StateM σ α} {f : α → StateM σ β} {s s' : σ} {a : α}
    (h : x.run s = (a, s')) : (x >>= f).run s = (f a).run s' := by
  rw [StateT.run_bind, h]
  rfl

/-- Two steps may be followed by two others where `k` tells all that the others look at. -/
theorem bind_congr_of_map {γ : Type} {x x' : Except ε α} {f f' : α → Except ε β} (k : α → γ)
    (hx : k <$> x = k <$> x') (hf : ∀ a a', k a = k a' → f a = f' a') : x >>= f = x' >>= f' := by
  cases x with
  | error e =>
      cases x' with
      | error e' => cases hx; rfl
      | ok a' => cases hx
  | ok a =>
      cases x' with
      | error e' => cases hx
      | ok a' => exact hf a a' (Except.ok.inj hx)

/-- A list of steps succeeds with a list of results exactly if each step succeeds with the result at its
own place. -/
theorem mapM_eq_ok_iff {f : α → Except ε β} {as : List α} {bs : List β} :
    as.mapM f = .ok bs ↔ List.Forall₂ (fun a b => f a = .ok b) as bs := by
  induction as generalizing bs with
  | nil => cases bs <;> simp [pure, Except.pure]
  | cons a as ih =>
      rw [List.mapM_cons]
      simp only [bind_eq_ok_iff, pure_eq_ok_iff]
      constructor
      · rintro ⟨b, hb, rest, hrest, rfl⟩
        exact .cons hb (ih.mp hrest)
      · intro h
        cases h with
        | cons hb hrest => exact ⟨_, hb, _, ih.mpr hrest, rfl⟩

/-- A list of steps fails exactly as one of them does that has only successful ones before it. -/
theorem mapM_eq_error_iff {f : α → Except ε β} {as : List α} {e : ε} :
    as.mapM f = .error e ↔ ∃ before a after, as = before ++ a :: after ∧
      (∀ x ∈ before, ∃ b, f x = .ok b) ∧ f a = .error e := by
  induction as with
  | nil => simp [pure, Except.pure]
  | cons a as ih =>
      rw [List.mapM_cons, bind_eq_error_iff]
      constructor
      · rintro (herror | ⟨b, hb, hrest⟩)
        · exact ⟨[], a, as, rfl, by simp, herror⟩
        -- The last step puts the list together, and never fails.
        · rw [bind_eq_error_iff] at hrest
          rcases hrest with hrest | ⟨bs, -, hpure⟩
          · obtain ⟨before, a', after, rfl, hbefore, herror⟩ := ih.mp hrest
            exact ⟨a :: before, a', after, rfl, List.forall_mem_cons.mpr ⟨⟨b, hb⟩, hbefore⟩, herror⟩
          · cases hpure
      · rintro ⟨before, a', after, hsplit, hbefore, herror⟩
        cases before with
        | nil =>
            obtain ⟨rfl, -⟩ := List.cons.inj hsplit
            exact .inl herror
        | cons first before =>
            obtain ⟨rfl, hrest⟩ := List.cons.inj hsplit
            rw [List.forall_mem_cons] at hbefore
            obtain ⟨⟨b, hb⟩, hbefore⟩ := hbefore
            refine .inr ⟨b, hb, ?_⟩
            rw [ih.mpr ⟨before, a', after, hrest, hbefore, herror⟩, error_bind]

/-- A list of steps comes out as another one if each step does. -/
theorem mapM_congr {f g : α → Except ε β} {as : List α} (h : ∀ a ∈ as, f a = g a) :
    as.mapM f = as.mapM g := by
  induction as with
  | nil => rfl
  | cons a as ih =>
      rw [List.forall_mem_cons] at h
      rw [List.mapM_cons, List.mapM_cons, h.1, ih h.2]

/-- What is made of the results of a list of steps can be made of each of them at once. -/
theorem map_mapM {γ : Type} (k : β → γ) (f : α → Except ε β) (as : List α) :
    List.map k <$> as.mapM f = as.mapM fun a => k <$> f a := by
  induction as with
  | nil => rfl
  | cons a as ih =>
      rw [List.mapM_cons, List.mapM_cons, ← ih]
      cases f a with
      | error e => rfl
      | ok b =>
          cases as.mapM f with
          | error e => rfl
          | ok bs => rfl

theorem Traced.result_mapM (f : α → Traced β) (as : List α) :
    (as.mapM f).result = as.mapM fun a => (f a).result := by
  induction as with
  | nil => rfl
  | cons a as ih =>
      rw [List.mapM_cons, List.mapM_cons, Traced.result_bind]
      congr 1
      funext b
      rw [Traced.result_bind, ih]
      rfl

end RegisterMap
