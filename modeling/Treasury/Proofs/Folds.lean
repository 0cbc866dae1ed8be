import Treasury.Proofs.Except

/-!
# Folds side by side

Where a fold fails is a place in its list: up to there it has succeeded, and it fails with the
element that stands there (`exists_failsAt_iff`). Two folds over lists that go together element by
element go along with each other, to the end or up to one place at which their steps differ
(`foldlM_apart`).
-/

namespace Treasury

variable {α β γ δ ε : Type}

/-- Both computations succeed with values that go together, or both fail with errors that do. -/
inductive Corresponds (R : α → β → Prop) (E : ε → ε → Prop) : Except ε α → Except ε β → Prop
  | ok {a : α} {b : β} : R a b → Corresponds R E (.ok a) (.ok b)
  | error {e e' : ε} : E e e' → Corresponds R E (.error e) (.error e')

theorem corresponds_iff {R : α → β → Prop} {E : ε → ε → Prop} {x : Except ε α} {y : Except ε β} :
    Corresponds R E x y ↔ (∃ a b, x = .ok a ∧ y = .ok b ∧ R a b)
      ∨ ∃ e e', x = .error e ∧ y = .error e' ∧ E e e' := by
  constructor
  · rintro (hab | he)
    · exact .inl ⟨_, _, rfl, rfl, hab⟩
    · exact .inr ⟨_, _, rfl, rfl, he⟩
  · rintro (⟨a, b, rfl, rfl, hab⟩ | ⟨e, e', rfl, rfl, he⟩)
    · exact .ok hab
    · exact .error he

theorem Corresponds.map {R : α → β → Prop} {S : γ → δ → Prop} {E : ε → ε → Prop} {x : Except ε α}
    {y : Except ε β} {f : α → γ} {g : β → δ} (h : Corresponds R E x y)
    (hfg : ∀ a b, R a b → S (f a) (g b)) : Corresponds S E (x.map f) (y.map g) := by
  cases h with
  | ok hab => exact .ok (hfg _ _ hab)
  | error he => exact .error he

theorem corresponds_refl {R : α → α → Prop} {E : ε → ε → Prop} (hR : ∀ a, R a a) (hE : ∀ e, E e e)
    (x : Except ε α) : Corresponds R E x x := by
  cases x with
  | ok a => exact .ok (hR a)
  | error e => exact .error (hE e)

/-- What is done with results that go together. -/
theorem Corresponds.bind {R : α → β → Prop} {S : γ → δ → Prop} {E : ε → ε → Prop} {x : Except ε α}
    {y : Except ε β} {f : α → Except ε γ} {g : β → Except ε δ} (h : Corresponds R E x y)
    (hfg : ∀ a b, x = .ok a → y = .ok b → R a b → Corresponds S E (f a) (g b)) :
    Corresponds S E (x >>= f) (y >>= g) := by
  cases h with
  | ok hab => exact hfg _ _ rfl rfl hab
  | error he => exact .error he

/-- The fold has come to the element at this place, with this result so far. -/
def ComesTo (f : β → α → Except ε β) (b : β) (as : List α) (n : Nat) (d : β) (a : α) : Prop :=
  (as.take n).foldlM f b = .ok d ∧ as[n]? = some a

/-- The fold fails with this error at this place. -/
def FailsAt (f : β → α → Except ε β) (b : β) (as : List α) (n : Nat) (e : ε) : Prop :=
  ∃ d a, ComesTo f b as n d a ∧ f d a = .error e

section

variable {f : β → α → Except ε β} {b d : β} {a x : α} {as : List α} {n : Nat} {e : ε}

theorem comesTo_zero : ComesTo f b (a :: as) 0 b a := ⟨rfl, rfl⟩

theorem comesTo_succ :
    ComesTo f b (a :: as) (n + 1) d x ↔ ∃ c, f b a = .ok c ∧ ComesTo f c as n d x := by
  unfold ComesTo
  rw [List.take_succ_cons, List.foldlM_cons, bind_eq_ok, List.getElem?_cons_succ]
  simp only [← and_assoc, exists_and_right]

theorem ComesTo.unique {d' : β} {x' : α} (h : ComesTo f b as n d x) (h' : ComesTo f b as n d' x') :
    d = d' ∧ x = x' :=
  ⟨Except.ok.inj (h.1.symm.trans h'.1), Option.some.inj (h.2.symm.trans h'.2)⟩

theorem not_failsAt_nil : ¬FailsAt f b [] n e := by
  rintro ⟨d, a, ⟨-, h⟩, -⟩
  exact absurd h (by simp)

theorem failsAt_zero : FailsAt f b (a :: as) 0 e ↔ f b a = .error e := by
  constructor
  · rintro ⟨d, x, h, he⟩
    obtain ⟨rfl, rfl⟩ := comesTo_zero.unique h
    exact he
  · exact fun he => ⟨b, a, comesTo_zero, he⟩

theorem failsAt_succ :
    FailsAt f b (a :: as) (n + 1) e ↔ ∃ c, f b a = .ok c ∧ FailsAt f c as n e := by
  unfold FailsAt
  simp only [comesTo_succ]
  constructor
  · rintro ⟨d, x, ⟨c, hc, h⟩, he⟩
    exact ⟨c, hc, d, x, h, he⟩
  · rintro ⟨c, hc, d, x, h, he⟩
    exact ⟨d, x, ⟨c, hc, h⟩, he⟩

/-- **A fold that fails does so at a place.** -/
theorem exists_failsAt_iff : (∃ n, FailsAt f b as n e) ↔ as.foldlM f b = .error e := by
  rw [foldlM_eq_error]
  constructor
  · rintro ⟨n, d, a, ⟨hd, ha⟩, he⟩
    obtain ⟨hn, rfl⟩ := List.getElem?_eq_some_iff.1 ha
    refine ⟨as.take n, as[n], as.drop (n + 1), d, ?_, hd, he⟩
    rw [← List.drop_eq_getElem_cons hn, List.take_append_drop]
  · rintro ⟨before, a, after, d, rfl, hd, he⟩
    refine ⟨before.length, d, a, ⟨?_, ?_⟩, he⟩
    · rwa [List.take_left]
    · rw [List.getElem?_append_right (Nat.le_refl _), Nat.sub_self]
      rfl

/-- **It does so at one place only.** -/
theorem FailsAt.unique {n' : Nat} {e' : ε} (h : FailsAt f b as n e) (h' : FailsAt f b as n' e') :
    n = n' ∧ e = e' := by
  induction as generalizing b n n' with
  | nil => exact absurd h not_failsAt_nil
  | cons a as ih =>
    cases n with
    | zero =>
      have ha := failsAt_zero.1 h
      cases n' with
      | zero => exact ⟨rfl, Except.error.inj (ha.symm.trans (failsAt_zero.1 h'))⟩
      | succ n' =>
        obtain ⟨c, hc, -⟩ := failsAt_succ.1 h'
        exact absurd (ha.symm.trans hc) (by simp)
    | succ n =>
      obtain ⟨c, hc, h⟩ := failsAt_succ.1 h
      cases n' with
      | zero => exact absurd (hc.symm.trans (failsAt_zero.1 h')) (by simp)
      | succ n' =>
        obtain ⟨c', hc', h'⟩ := failsAt_succ.1 h'
        obtain rfl := Except.ok.inj (hc.symm.trans hc')
        exact (ih h h').imp_left (congrArg (· + 1))

end

/-- **Folds over lists that go together go together, or else there is a place that both come to
together and where they go apart.** -/
theorem foldlM_apart {R : α → γ → Prop} {S : β → δ → Prop} {f : β → α → Except ε β}
    {g : δ → γ → Except ε δ} {as : List α} {cs : List γ} (hlists : List.Forall₂ R as cs) {b : β}
    {d : δ} (hstart : S b d) :
    (∃ b' d', as.foldlM f b = .ok b' ∧ cs.foldlM g d = .ok d' ∧ S b' d')
      ∨ ∃ n b' a d' c, ComesTo f b as n b' a ∧ ComesTo g d cs n d' c ∧ S b' d' ∧ R a c
        ∧ ¬∃ b'' d'', f b' a = .ok b'' ∧ g d' c = .ok d'' ∧ S b'' d'' := by
  induction hlists generalizing b d with
  | nil => exact .inl ⟨b, d, rfl, rfl, hstart⟩
  | @cons a c as cs hac _ ih =>
    by_cases hstep : ∃ b' d', f b a = .ok b' ∧ g d c = .ok d' ∧ S b' d'
    · obtain ⟨b', d', hb, hd, hnext⟩ := hstep
      rcases ih hnext with ⟨b'', d'', hb', hd', hend⟩ | ⟨n, b'', x, d'', y, hf, hg, hrest⟩
      · refine .inl ⟨b'', d'', ?_, ?_, hend⟩
        · rw [List.foldlM_cons, bind_eq_ok]
          exact ⟨b', hb, hb'⟩
        · rw [List.foldlM_cons, bind_eq_ok]
          exact ⟨d', hd, hd'⟩
      · exact .inr ⟨n + 1, b'', x, d'', y, comesTo_succ.2 ⟨b', hb, hf⟩,
          comesTo_succ.2 ⟨d', hd, hg⟩, hrest⟩
    · exact .inr ⟨0, b, a, d, c, comesTo_zero, comesTo_zero, hstart, hac, hstep⟩

end Treasury
