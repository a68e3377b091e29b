import Mathlib.Tactic

/-!
# Checks one after the other

A sequence of steps that may fail succeeds exactly if every step does, and a loop over
a list that may fail keeps what each of its steps keeps.  What is said about each item
and the items before it is said of a longer list by saying it of its last item, too.
-/

namespace PowerLink.Results

variable {ε ε' α β σ : Type}

theorem bind_eq_ok_iff {step : Except ε α} {next : α → Except ε β} {result : β} :
    step >>= next = .ok result ↔
      ∃ value, step = .ok value ∧ next value = .ok result := by
  cases step with
  | error e => simp [bind, Except.bind]
  | ok value => simp [bind, Except.bind]

theorem bind_eq_error_iff {step : Except ε α} {next : α → Except ε β} {e : ε} :
    step >>= next = .error e ↔
      step = .error e ∨ ∃ value, step = .ok value ∧ next value = .error e := by
  cases step with
  | error e' => simp [bind, Except.bind]
  | ok value => simp [bind, Except.bind]

theorem mapError_eq_ok_iff {step : Except ε α} {wrap : ε → ε'} {value : α} :
    step.mapError wrap = .ok value ↔ step = .ok value := by
  cases step with
  | error e => simp [Except.mapError]
  | ok value => simp [Except.mapError]

theorem mapError_eq_error_iff {step : Except ε α} {wrap : ε → ε'} {e : ε'} :
    step.mapError wrap = .error e ↔ ∃ cause, step = .error cause ∧ wrap cause = e := by
  cases step with
  | error cause => simp [Except.mapError]
  | ok value => simp [Except.mapError]

theorem map_eq_ok_iff {step : Except ε α} {wrap : α → β} {result : β} :
    step.map wrap = .ok result ↔ ∃ value, step = .ok value ∧ wrap value = result := by
  cases step with
  | error e => simp [Except.map]
  | ok value => simp [Except.map]

theorem map_eq_error_iff {step : Except ε α} {wrap : α → β} {e : ε} :
    step.map wrap = .error e ↔ step = .error e := by
  cases step with
  | error cause => simp [Except.map]
  | ok value => simp [Except.map]

theorem foldlM_keeps (holds : σ → Prop) {step : σ → α → Except ε σ}
    (hstep : ∀ state item next, holds state → step state item = .ok next → holds next)
    {items : List α} {first last : σ} (hfirst : holds first)
    (hrun : items.foldlM step first = .ok last) : holds last := by
  induction items generalizing first with
  | nil =>
      simp only [List.foldlM_nil, pure, Except.pure, Except.ok.injEq] at hrun
      exact hrun ▸ hfirst
  | cons item rest ih =>
      rw [List.foldlM_cons] at hrun
      rcases bind_eq_ok_iff.mp hrun with ⟨middle, hitem, hrest⟩
      exact ih (hstep first item middle hfirst hitem) hrest

theorem foldlM_concat_eq_ok_iff {step : σ → α → Except ε σ} {items : List α} {last : α}
    {first result : σ} :
    (items ++ [last]).foldlM step first = .ok result ↔
      ∃ middle, items.foldlM step first = .ok middle ∧ step middle last = .ok result := by
  simp [List.foldlM_append, bind_eq_ok_iff]

/-- A loop fails at the first item at which a step does. -/
theorem foldlM_eq_error_iff {step : σ → α → Except ε σ} {items : List α} {first : σ}
    {e : ε} :
    items.foldlM step first = .error e ↔
      ∃ before item after middle, items = before ++ item :: after ∧
        before.foldlM step first = .ok middle ∧ step middle item = .error e := by
  constructor
  · intro hrun
    induction items generalizing first with
    | nil => cases hrun
    | cons item rest ih =>
        rw [List.foldlM_cons] at hrun
        rcases bind_eq_error_iff.mp hrun with hitem | ⟨next, hitem, hrest⟩
        · exact ⟨[], item, rest, first, rfl, rfl, hitem⟩
        · obtain ⟨before, last, after, middle, rfl, hbefore, hlast⟩ := ih hrest
          refine ⟨item :: before, last, after, middle, rfl, ?_, hlast⟩
          rw [List.foldlM_cons]
          exact bind_eq_ok_iff.mpr ⟨next, hitem, hbefore⟩
  · rintro ⟨before, item, after, middle, rfl, hbefore, hitem⟩
    rw [List.foldlM_append, hbefore]
    change (item :: after).foldlM step middle = .error e
    rw [List.foldlM_cons]
    exact bind_eq_error_iff.mpr (.inl hitem)

theorem mapM_cons_eq_ok_iff {check : α → Except ε β} {item : α} {rest : List α}
    {results : List β} :
    (item :: rest).mapM check = .ok results ↔
      ∃ head tail, check item = .ok head ∧ rest.mapM check = .ok tail ∧
        results = head :: tail := by
  simp only [List.mapM_cons, bind_eq_ok_iff, pure, Except.pure, Except.ok.injEq]
  constructor
  · rintro ⟨head, hhead, tail, htail, rfl⟩
    exact ⟨head, tail, hhead, htail, rfl⟩
  · rintro ⟨head, tail, hhead, htail, rfl⟩
    exact ⟨head, hhead, tail, htail, rfl⟩

theorem exists_of_mem_mapM {check : α → Except ε β} {items : List α}
    {results : List β} (hrun : items.mapM check = .ok results) {result : β}
    (hmem : result ∈ results) : ∃ item ∈ items, check item = .ok result := by
  induction items generalizing results with
  | nil =>
      simp only [List.mapM_nil, pure, Except.pure, Except.ok.injEq] at hrun
      subst hrun
      simp at hmem
  | cons item rest ih =>
      rcases mapM_cons_eq_ok_iff.mp hrun with ⟨head, tail, hhead, htail, rfl⟩
      rcases List.mem_cons.mp hmem with rfl | hmem
      · exact ⟨item, by simp, hhead⟩
      · rcases ih htail hmem with ⟨found, hfound, hcheck⟩
        exact ⟨found, by simp [hfound], hcheck⟩

theorem forall_split_concat_iff (holds : List α → α → Prop)
    {items : List α} {last : α} :
    (∀ before item after, items ++ [last] = before ++ item :: after → holds before item) ↔
      (∀ before item after, items = before ++ item :: after → holds before item) ∧
        holds items last := by
  constructor
  · intro hall
    constructor
    · rintro before item after rfl
      exact hall before item (after ++ [last]) (by simp)
    · exact hall items last [] rfl
  · rintro ⟨hinit, hlast⟩ before item after hsplit
    rcases List.eq_nil_or_concat after with rfl | ⟨init, other, rfl⟩
    · rcases List.append_inj' hsplit rfl with ⟨rfl, hitem⟩
      obtain rfl : last = item := by simpa using hitem
      exact hlast
    · rw [List.concat_eq_append, ← List.cons_append, ← List.append_assoc] at hsplit
      rcases List.append_inj' hsplit rfl with ⟨hinit', _⟩
      exact hinit before item init hinit'

end PowerLink.Results
