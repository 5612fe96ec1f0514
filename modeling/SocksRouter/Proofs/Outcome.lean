/-!
# Opening operations that may fail

An operation made of others succeeds when all of them do, and fails where the first of them fails.
Said once for plain outcomes and once for operations that work on a state, so that a proof takes a
`do` block apart by naming what each line gave and what it left. Both are equivalences, so nothing
is lost in taking a block apart.

Two runs of an operation are compared by what can be seen of the states. An operation that does not
look behind the view (`Respects`) comes to the same from states that look the same, and a `do` block
of such operations does not look behind it either (`Respects.bind`).
-/

namespace SocksRouter

variable {α β ε ε' σ : Type}

namespace Outcome

theorem bind_eq_ok {x : Except ε α} {f : α → Except ε β} {b : β} :
    (x >>= f) = .ok b ↔ ∃ a, x = .ok a ∧ f a = .ok b := by
  cases x with
  | error e => simp [bind, Except.bind]
  | ok a => simp [bind, Except.bind]

theorem pure_eq_ok {a b : α} : (pure a : Except ε α) = .ok b ↔ a = b := by
  simp [pure, Except.pure]

theorem mapError_eq_ok {f : ε → ε'} {x : Except ε α} {a : α} :
    x.mapError f = .ok a ↔ x = .ok a := by
  cases x with
  | error e => exact ⟨nofun, nofun⟩
  | ok b =>
    change (.ok b : Except ε' α) = .ok a ↔ (.ok b : Except ε α) = .ok a
    rw [Except.ok.injEq, Except.ok.injEq]

theorem toOption_eq_some_iff {x : Except ε α} {a : α} : x.toOption = some a ↔ x = .ok a := by
  cases x <;> simp [Except.toOption]

/-! ### Operations on a state -/

variable {s s' : σ}

/-- Two operations, one after the other, give what the second gives, unless the first fails. -/
theorem bind_apply_eq_iff {x : ExceptT ε (StateM σ) α} {f : α → ExceptT ε (StateM σ) β}
    {r : Except ε β} :
    (x >>= f) s = (r, s') ↔
      (∃ e, x s = (.error e, s') ∧ r = .error e) ∨
        ∃ a mid, x s = (.ok a, mid) ∧ f a mid = (r, s') := by
  have hcont : ∀ p : Except ε α × σ,
      (ExceptT.bindCont f p.1 p.2 : Except ε β × σ) = (r, s') ↔
        (∃ e, p = (.error e, s') ∧ r = .error e) ∨
          ∃ a mid, p = (.ok a, mid) ∧ (f a mid : Except ε β × σ) = (r, s') := by
    rintro ⟨e | a, mid⟩
    · change ((.error e, mid) : Except ε β × σ) = (r, s') ↔ _
      simp [and_assoc, and_comm, eq_comm]
    · change (f a mid : Except ε β × σ) = (r, s') ↔ _
      simp [and_assoc]
  exact hcont (x s)

theorem throw_apply (e : ε) : (throw e : ExceptT ε (StateM σ) α) s = (.error e, s) :=
  rfl

theorem bind_apply_of_error {x : ExceptT ε (StateM σ) α} {f : α → ExceptT ε (StateM σ) β} {e : ε}
    (h : x s = (.error e, s')) : (x >>= f) s = (.error e, s') :=
  bind_apply_eq_iff.2 (.inl ⟨e, h, rfl⟩)

theorem bind_apply_of_ok {x : ExceptT ε (StateM σ) α} {f : α → ExceptT ε (StateM σ) β} {a : α}
    (h : x s = (.ok a, s')) : (x >>= f) s = f a s' :=
  bind_apply_eq_iff.2 (.inr ⟨a, s', h, rfl⟩)

/-! ### Two runs -/

variable {τ : Type}

/-- Two runs have come to the same, as far as it can be seen by `view`. -/
def Agree (view : σ → τ) (run run' : Except ε α × σ) : Prop :=
  run.1 = run'.1 ∧ view run.2 = view run'.2

/-- The operation does not look behind `view`. -/
def Respects (view : σ → τ) (operation : ExceptT ε (StateM σ) α) : Prop :=
  ∀ s s', view s = view s' → Agree view (operation s) (operation s')

variable {view : σ → τ} {operation : ExceptT ε (StateM σ) α} {next : α → ExceptT ε (StateM σ) β}

/-- Two runs that have come to the same have one outcome. -/
theorem Agree.exists_eq {run run' : Except ε α × σ} (h : Agree view run run') :
    ∃ outcome mid mid', run = (outcome, mid) ∧ run' = (outcome, mid') ∧ view mid = view mid' := by
  obtain ⟨outcome, mid⟩ := run
  obtain ⟨outcome', mid'⟩ := run'
  obtain ⟨houtcome, hview⟩ := h
  obtain rfl : outcome = outcome' := houtcome
  exact ⟨outcome, mid, mid', rfl, rfl, hview⟩

theorem Agree.bind (h : Agree view (operation s) (operation s'))
    (hnext : ∀ a, Respects view (next a)) :
    Agree view ((operation >>= next) s) ((operation >>= next) s') := by
  obtain ⟨fault | a, mid, mid', hrun, hrun', hview⟩ := h.exists_eq
  · rw [bind_apply_of_error hrun, bind_apply_of_error hrun']
    exact ⟨rfl, hview⟩
  · rw [bind_apply_of_ok hrun, bind_apply_of_ok hrun']
    exact hnext a mid mid' hview

/-- **A block of operations that do not look behind the view** does not either. -/
theorem Respects.bind (h : Respects view operation) (hnext : ∀ a, Respects view (next a)) :
    Respects view (operation >>= next) :=
  fun s s' hview ↦ (h s s' hview).bind hnext

theorem respects_pure (a : α) : Respects view (pure a : ExceptT ε (StateM σ) α) :=
  fun _ _ hview ↦ ⟨rfl, hview⟩

theorem respects_throw (fault : ε) : Respects view (throw fault : ExceptT ε (StateM σ) α) :=
  fun _ _ hview ↦ ⟨rfl, hview⟩

end Outcome

end SocksRouter
