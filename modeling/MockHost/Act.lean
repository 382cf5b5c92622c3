import MockHost.Error.Failure
import MockHost.Trace

/-!
# Acts

An act changes a world and either gives a result or fails. What an act did to the
world before it failed stays done, so the world after a failure counts too.

## Main definitions

* `Act`: A change of a world that may fail.
* `Act.attempt`: An act whose failure is a result.
* `Act.within`: An act on one part of a larger world.
* `Act.Moves`: Whatever it comes to, an act moves the world along a relation.
* `Act.Returns`: Whatever it gives, its result has a property.
* `Act.Succeeds`: An act that never fails.
* `Act.Harmless`: An act that fails with errors of the system only.

## Theorems

* `Act.runFrom_bind`: A sequence of acts goes on from where the first one ends.
* `Act.runFrom_bind_ok`, `Act.runFrom_bind_error`: The same, for a known end.
* `Act.Moves.bind`: A sequence moves the world along what its parts move it along.
* `Act.Returns.bind`: What a sequence gives.
-/

namespace MockHost

/-- A change of the world `σ` that gives a result or fails. -/
abbrev Act (σ : Type) := ExceptT Failure (StateM σ)

namespace Act

/-- The result or failure of an act, and the world after it. -/
def runFrom {σ α : Type} (a : Act σ α) (s : σ) : Except Failure α × σ := (a.run).run s

/-- An act whose failure is a result. -/
def attempt {σ α : Type} (a : Act σ α) : Act σ (Except Failure α) := fun s =>
  let (r, s) := a.runFrom s
  (.ok r, s)

/-- An act on a part of the world that is read and put back. -/
def within {σ τ α : Type} (get : σ → τ) (set : τ → σ → σ) (a : Act τ α) : Act σ α := fun s =>
  let (r, t) := a.runFrom (get s)
  (r, set t s)

/-- An act followed by another one that is done even if the first fails. A failure of
    the second hides the result of the first. -/
def andFinally {σ α : Type} (a : Act σ α) (last : Act σ Unit) : Act σ α := do
  let r ← attempt a
  last
  liftExcept r
where
  /-- A result or failure as an act. -/
  liftExcept (r : Except Failure α) : Act σ α := fun s => (r, s)

section

variable {σ τ α β : Type}

@[simp] theorem runFrom_pure (x : α) (s : σ) : (pure x : Act σ α).runFrom s = (.ok x, s) := rfl

@[simp] theorem runFrom_throw (f : Failure) (s : σ) :
    (throw f : Act σ α).runFrom s = (.error f, s) := rfl

@[simp] theorem runFrom_get (s : σ) : (get : Act σ σ).runFrom s = (.ok s, s) := rfl

@[simp] theorem runFrom_modify (f : σ → σ) (s : σ) :
    (modify f : Act σ Unit).runFrom s = (.ok (), f s) := rfl

@[simp] theorem runFrom_attempt (a : Act σ α) (s : σ) :
    (attempt a).runFrom s = (.ok (a.runFrom s).1, (a.runFrom s).2) := rfl

@[simp] theorem runFrom_within (get : σ → τ) (set : τ → σ → σ) (a : Act τ α) (s : σ) :
    (within get set a).runFrom s = ((a.runFrom (get s)).1, set (a.runFrom (get s)).2 s) := rfl

theorem runFrom_bind (a : Act σ α) (f : α → Act σ β) (s : σ) :
    (a >>= f).runFrom s = match a.runFrom s with
      | (.ok x, s') => (f x).runFrom s'
      | (.error e, s') => (.error e, s') := by
  change (match a s with | (r, s') => ExceptT.bindCont f r s') = _
  rcases h : a s with ⟨_ | _, _⟩ <;> simp only [runFrom, ExceptT.run, StateT.run, h] <;> rfl

theorem runFrom_bind_ok {a : Act σ α} {s s' : σ} {x : α} (h : a.runFrom s = (.ok x, s'))
    (f : α → Act σ β) : (a >>= f).runFrom s = (f x).runFrom s' := by
  rw [runFrom_bind, h]

theorem runFrom_bind_error {a : Act σ α} {s s' : σ} {e : Failure}
    (h : a.runFrom s = (.error e, s')) (f : α → Act σ β) :
    (a >>= f).runFrom s = (.error e, s') := by
  rw [runFrom_bind, h]

end

/-! ### Acts that move the world along a relation -/

/-- A relation that holds along any sequence of steps that it holds for. -/
structure Path {σ : Type} (R : σ → σ → Prop) : Prop where
  refl : ∀ s, R s s
  trans : ∀ {s t u}, R s t → R t u → R s u

section

variable {σ τ α β : Type} {R : σ → σ → Prop}

/-- Whatever it comes to, the act moves the world along `R`. -/
def Moves (R : σ → σ → Prop) (a : Act σ α) : Prop := ∀ s, R s (a.runFrom s).2

theorem Moves.pure (path : Path R) (x : α) : Moves R (pure x : Act σ α) := path.refl

theorem Moves.throw (path : Path R) (f : Failure) : Moves R (throw f : Act σ α) := path.refl

theorem Moves.get (path : Path R) : Moves R (get : Act σ σ) := path.refl

theorem Moves.modify {f : σ → σ} (h : ∀ s, R s (f s)) : Moves R (modify f : Act σ Unit) := h

theorem Moves.attempt {a : Act σ α} (h : Moves R a) : Moves R (attempt a) := h

/-- Where a known run of the act leads to. -/
theorem Moves.reaches {a : Act σ α} (h : Moves R a) {s s' : σ} {res : Except Failure α}
    (hrun : a.runFrom s = (res, s')) : R s s' := by
  have hs := h s
  rwa [hrun] at hs

/-- What follows a failure is not done, so only the results have to be followed up. -/
theorem Moves.bind (path : Path R) {a : Act σ α} {f : α → Act σ β} (ha : Moves R a)
    (hf : ∀ x, Moves R (f x)) : Moves R (a >>= f) := by
  intro s
  rw [runFrom_bind]
  rcases hrun : a.runFrom s with ⟨_ | x, s'⟩
  · exact ha.reaches hrun
  · exact path.trans (ha.reaches hrun) (hf x s')

/-- Something done only under a condition, before what is done in any case. -/
theorem Moves.ifThen (path : Path R) {c : Prop} [Decidable c] {a : Act σ β} {f : β → Act σ α}
    {b : Act σ α} (ha : Moves R a) (hf : ∀ x, Moves R (f x)) (hb : Moves R b) :
    Moves R (if c then a >>= f else b) := by
  by_cases hc : c
  · rw [if_pos hc]
    exact Moves.bind path ha hf
  · rw [if_neg hc]
    exact hb

/-- A failure under a condition, before what is done otherwise. -/
theorem Moves.unless (path : Path R) {c : Prop} [Decidable c] {f : Failure} {b : Act σ α}
    (hb : Moves R b) :
    Moves R (if c then (MonadExcept.throw f : Act σ PUnit) >>= fun _ => b else b) :=
  Moves.ifThen path (Moves.throw path f) (fun _ => hb) hb

theorem Moves.within {Q : τ → τ → Prop} {get : σ → τ} {set : τ → σ → σ} {a : Act τ α}
    (ha : Moves Q a) (h : ∀ s t, Q (get s) t → R s (set t s)) : Moves R (within get set a) :=
  fun s => h s _ (ha (get s))

theorem Moves.andFinally (path : Path R) {a : Act σ α} {last : Act σ Unit} (ha : Moves R a)
    (hlast : Moves R last) : Moves R (Act.andFinally a last) :=
  Moves.bind path ha.attempt fun _ => Moves.bind path hlast fun _ => path.refl

end

/-! ### Acts whose results have a property -/

section

variable {σ α β : Type}

/-- Whatever the act gives satisfies `P`. -/
def Returns (P : α → Prop) (a : Act σ α) : Prop := ∀ s x, (a.runFrom s).1 = .ok x → P x

theorem Returns.pure {P : α → Prop} {x : α} (h : P x) : Returns P (pure x : Act σ α) := by
  intro s y hy
  injection hy with hy
  exact hy ▸ h

theorem Returns.throw (P : α → Prop) (f : Failure) : Returns P (throw f : Act σ α) := by
  intro s y hy
  injection hy

theorem Returns.bind {P : α → Prop} {Q : β → Prop} {a : Act σ α} {f : α → Act σ β}
    (ha : Returns P a) (hf : ∀ x, P x → Returns Q (f x)) : Returns Q (a >>= f) := by
  intro s y hy
  rw [runFrom_bind] at hy
  rcases hrun : a.runFrom s with ⟨_ | x, s'⟩
  · rw [hrun] at hy
    injection hy
  · rw [hrun] at hy
    exact hf x (ha s x (by rw [hrun])) s' y hy

theorem Returns.trivial (a : Act σ α) : Returns (fun _ => True) a := fun _ _ _ => True.intro

theorem Returns.andFinally {P : α → Prop} {a : Act σ α} {last : Act σ Unit} (ha : Returns P a) :
    Returns P (Act.andFinally a last) := by
  intro s x hx
  refine ha s x ?_
  rw [Act.andFinally, runFrom_bind, runFrom_attempt] at hx
  simp only [runFrom_bind] at hx
  rcases hlast : last.runFrom (a.runFrom s).2 with ⟨_ | _, s'⟩
  · rw [hlast] at hx
    injection hx
  · rw [hlast] at hx
    exact hx

end

/-! ### Acts that never fail -/

section

variable {σ α β : Type}

/-- The act gives a result in every world. -/
def Succeeds (a : Act σ α) : Prop := ∀ s, ∃ x s', a.runFrom s = (.ok x, s')

theorem Succeeds.pure (x : α) : Succeeds (pure x : Act σ α) := fun s => ⟨x, s, rfl⟩

theorem Succeeds.get : Succeeds (get : Act σ σ) := fun s => ⟨s, s, rfl⟩

theorem Succeeds.modify (f : σ → σ) : Succeeds (modify f : Act σ Unit) := fun s => ⟨(), f s, rfl⟩

theorem Succeeds.attempt (a : Act σ α) : Succeeds (attempt a) := fun s => ⟨_, _, runFrom_attempt a s⟩

theorem Succeeds.bind {a : Act σ α} {f : α → Act σ β} (ha : Succeeds a)
    (hf : ∀ x, Succeeds (f x)) : Succeeds (a >>= f) := by
  intro s
  rcases ha s with ⟨x, s', hrun⟩
  rw [runFrom_bind_ok hrun]
  exact hf x s'

/-- Something done only under a condition, before what is done in any case. -/
theorem Succeeds.ifThen {c : Prop} [Decidable c] {a : Act σ β} {f : β → Act σ α} {b : Act σ α}
    (ha : Succeeds a) (hf : ∀ x, Succeeds (f x)) (hb : Succeeds b) :
    Succeeds (if c then a >>= f else b) := by
  by_cases hc : c
  · rw [if_pos hc]
    exact Succeeds.bind ha hf
  · rw [if_neg hc]
    exact hb

/-- The act comes to its end, or fails with an error of the system. -/
def Harmless (a : Act σ Unit) : Prop :=
  ∀ s, ∃ s', a.runFrom s = (.ok (), s') ∨ ∃ e, a.runFrom s = (.error (.system e), s')

theorem Succeeds.harmless {a : Act σ Unit} (h : Succeeds a) : Harmless a := by
  intro s
  rcases h s with ⟨_, s', hrun⟩
  exact ⟨s', .inl hrun⟩

end

end Act

end MockHost
