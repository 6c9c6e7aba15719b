import Mathlib.Data.List.Forall2

/-!
# Traversals that stop at the first fault

A chain of steps succeeds exactly when every step does. A traversal of a list succeeds exactly when every
item does, and then its results stand in the order of the items; otherwise it fails with the fault of the
first item that has one.
-/

namespace TableLayout

section
variable {ε α β γ : Type}

theorem bind_eq_ok {x : Except ε α} {f : α → Except ε β} {b : β} :
    x >>= f = .ok b ↔ ∃ a, x = .ok a ∧ f a = .ok b := by
  cases x with
  | error e => simp [bind, Except.bind]
  | ok a => simp [bind, Except.bind]

theorem bind_eq_error {x : Except ε α} {f : α → Except ε β} {e : ε} :
    x >>= f = .error e ↔ x = .error e ∨ ∃ a, x = .ok a ∧ f a = .error e := by
  cases x with
  | error e' => simp [bind, Except.bind]
  | ok a => simp [bind, Except.bind]

theorem toOption_eq_some {x : Except ε α} {a : α} : x.toOption = some a ↔ x = .ok a := by
  cases x <;> simp [Except.toOption]

theorem map_eq_ok {x : Except ε α} {f : α → β} {b : β} :
    x.map f = .ok b ↔ ∃ a, x = .ok a ∧ f a = b := by
  cases x with
  | error e => simp [Except.map]
  | ok a => simp [Except.map]

theorem map_eq_error {x : Except ε α} {f : α → β} {e : ε} : x.map f = .error e ↔ x = .error e := by
  cases x <;> simp [Except.map]

theorem exists_eq_ok {x : Except ε α} (h : x.isOk = true) : ∃ a, x = .ok a := by
  cases x with
  | error e => cases h
  | ok a => exact ⟨a, rfl⟩

theorem mapM_eq_ok_iff {f : α → Except ε β} {l : List α} {r : List β} :
    l.mapM f = .ok r ↔ List.Forall₂ (fun a b => f a = .ok b) l r := by
  induction l generalizing r with
  | nil => cases r <;> simp [pure, Except.pure]
  | cons a l ih =>
    rw [List.mapM_cons, List.forall₂_cons_left_iff]
    simp only [bind_eq_ok, ih, pure, Except.pure, Except.ok.injEq]
    constructor
    · rintro ⟨b, hb, bs, hbs, rfl⟩
      exact ⟨b, bs, hb, hbs, rfl⟩
    · rintro ⟨b, bs, hb, hbs, rfl⟩
      exact ⟨b, hb, bs, hbs, rfl⟩

theorem forall₂_mem_right {R : α → β → Prop} {l : List α} {r : List β} (h : List.Forall₂ R l r)
    {b : β} (hb : b ∈ r) : ∃ a ∈ l, R a b := by
  induction h with
  | nil => cases hb
  | cons hab _ ih =>
    rcases List.mem_cons.mp hb with rfl | hb'
    · exact ⟨_, List.mem_cons_self, hab⟩
    · obtain ⟨a, ha, hR⟩ := ih hb'
      exact ⟨a, List.mem_cons_of_mem _ ha, hR⟩

theorem exists_forall₂_iff {R : α → β → Prop} {l : List α} :
    (∃ r, List.Forall₂ R l r) ↔ ∀ a ∈ l, ∃ b, R a b := by
  constructor
  · rintro ⟨r, h⟩ a ha
    obtain ⟨b, -, hR⟩ := forall₂_mem_right h.flip ha
    exact ⟨b, hR⟩
  · intro h
    induction l with
    | nil => exact ⟨[], .nil⟩
    | cons a l ih =>
      obtain ⟨b, hb⟩ := h a List.mem_cons_self
      obtain ⟨r, hr⟩ := ih fun a ha => h a (List.mem_cons_of_mem _ ha)
      exact ⟨b :: r, .cons hb hr⟩

theorem forall₂_join {R : α → β → Prop} {Q : α → γ → Prop} {T : β → γ → Prop}
    (hT : ∀ a b c, R a b → Q a c → T b c) {l : List α} {r : List β} {q : List γ}
    (hr : List.Forall₂ R l r) (hq : List.Forall₂ Q l q) : List.Forall₂ T r q := by
  induction hr generalizing q with
  | nil => cases hq; exact .nil
  | cons hab _ ih =>
    cases hq with
    | cons hac hq => exact .cons (hT _ _ _ hab hac) (ih hq)

theorem run_bind_of_run {σ : Type} {x : StateM σ α} {f : α → StateM σ β} {s s' : σ} {a : α} (h : x.run s = (a, s')) :
    (x >>= f).run s = (f a).run s' := by
  rw [StateT.run_bind, h]
  rfl

/-- Where a run stops with the errors of its first step, it succeeds by going on from there. -/
theorem exists_of_run_bind_ok {σ ε' : Type} {x : StateM σ (Except ε α)} {next : Except ε α → StateM σ (Except ε' β)}
    {s s' : σ} {b : β} (h : (x >>= next).run s = (.ok b, s'))
    (hstop : ∀ e, ∃ e', next (.error e) = pure (.error e')) :
    ∃ a s₁, x.run s = (.ok a, s₁) ∧ (next (.ok a)).run s₁ = (.ok b, s') := by
  cases hx : x.run s with
  | mk outcome s₁ =>
    rw [run_bind_of_run hx] at h
    cases outcome with
    | error e =>
      obtain ⟨e', he⟩ := hstop e
      rw [he] at h
      cases h
    | ok a => exact ⟨a, s₁, rfl, h⟩

/-! ## Faults -/

def fault? : Except ε α → Option ε
  | .error e => some e
  | .ok _ => none

theorem fault?_eq_some {x : Except ε α} {e : ε} : fault? x = some e ↔ x = .error e := by
  cases x <;> simp [fault?]

/-- Steps that fail whatever the steps before them gave come second. -/
theorem fault?_bind {x : Except ε α} {f : α → Except ε β} {o : Option ε} (h : ∀ a, fault? (f a) = o) :
    fault? (x >>= f) = (fault? x).or o := by
  cases x with
  | error e => rfl
  | ok a => exact h a

theorem fault?_mapM (f : α → Except ε β) (l : List α) :
    fault? (l.mapM f) = l.findSome? fun a => fault? (f a) := by
  induction l with
  | nil => rfl
  | cons a l ih =>
    have rest : ∀ b, fault? (do let bs ← l.mapM f; pure (b :: bs)) = l.findSome? fun a => fault? (f a) := by
      intro b
      rw [fault?_bind (o := none) fun _ => rfl, ih, Option.or_none]
    rw [List.mapM_cons, fault?_bind rest, List.findSome?_cons]
    cases fault? (f a) <;> rfl

def IsFirst (p : α → Prop) (l : List α) (a : α) : Prop :=
  ∃ before after, l = before ++ a :: after ∧ p a ∧ ∀ b ∈ before, ¬p b

theorem exists_isFirst_iff {p : α → Prop} {l : List α} : (∃ a, IsFirst p l a) ↔ ∃ a ∈ l, p a := by
  constructor
  · rintro ⟨a, before, after, rfl, ha, -⟩
    exact ⟨a, by simp, ha⟩
  · intro h
    induction l with
    | nil =>
      obtain ⟨a, ha, -⟩ := h
      cases ha
    | cons b l ih =>
      by_cases hb : p b
      · exact ⟨b, [], l, rfl, hb, by simp⟩
      · have htail : ∃ a ∈ l, p a := by
          obtain ⟨a, ha, hp⟩ := h
          rcases List.mem_cons.mp ha with rfl | ha
          · exact absurd hp hb
          · exact ⟨a, ha, hp⟩
        obtain ⟨a, before, after, rfl, ha, hbefore⟩ := ih htail
        exact ⟨a, b :: before, after, rfl, ha, List.forall_mem_cons.mpr ⟨hb, hbefore⟩⟩

theorem exists_last {p : α → Prop} {l : List α} (h : ∃ a ∈ l, p a) :
    ∃ before a after, l = before ++ a :: after ∧ p a ∧ ∀ b ∈ after, ¬p b := by
  have hreverse : ∃ a ∈ l.reverse, p a := by simpa using h
  obtain ⟨a, front, back, hl, ha, hfront⟩ := exists_isFirst_iff.mpr hreverse
  refine ⟨back.reverse, a, front.reverse, ?_, ha, by simpa using hfront⟩
  rw [← List.reverse_reverse l, hl]
  simp

theorem isFirst_congr {p q : α → Prop} {l : List α} (h : ∀ a ∈ l, (p a ↔ q a)) {a : α} :
    IsFirst p l a ↔ IsFirst q l a := by
  unfold IsFirst
  refine exists_congr fun before => exists_congr fun after => and_congr_right fun hl => ?_
  have hbefore : ∀ b ∈ before, b ∈ l := fun b hb => hl ▸ List.mem_append_left _ hb
  refine and_congr (h a (hl ▸ by simp)) (forall₂_congr fun b hb => ?_)
  rw [h b (hbefore b hb)]

theorem isFirst_map {p : β → Prop} {g : α → β} {l : List α} {b : β} :
    IsFirst p (l.map g) b ↔ ∃ a, g a = b ∧ IsFirst (fun a => p (g a)) l a := by
  constructor
  · rintro ⟨before, after, hl, hb, hbefore⟩
    obtain ⟨front, rest, rfl, rfl, hrest⟩ := List.map_eq_append_iff.mp hl
    obtain ⟨a, back, rfl, rfl, rfl⟩ := List.map_eq_cons_iff.mp hrest
    exact ⟨a, rfl, front, back, rfl, hb, fun c hc => hbefore _ (List.mem_map_of_mem hc)⟩
  · rintro ⟨a, rfl, before, after, rfl, ha, hbefore⟩
    exact ⟨before.map g, after.map g, by simp, ha, by simpa using hbefore⟩

theorem mapM_eq_error_iff {f : α → Except ε β} {l : List α} {e : ε} : l.mapM f = .error e ↔
    ∃ a, IsFirst (fun a => ∃ e, f a = .error e) l a ∧ f a = .error e := by
  rw [← fault?_eq_some, fault?_mapM, List.findSome?_eq_some_iff]
  have hnone : ∀ a, fault? (f a) = none ↔ ¬∃ e, f a = .error e := by
    intro a
    cases f a <;> simp [fault?]
  simp only [fault?_eq_some, hnone]
  constructor
  · rintro ⟨before, a, after, rfl, ha, hbefore⟩
    exact ⟨a, ⟨before, after, rfl, ⟨e, ha⟩, hbefore⟩, ha⟩
  · rintro ⟨a, ⟨before, after, rfl, -, hbefore⟩, ha⟩
    exact ⟨before, a, after, rfl, ha, hbefore⟩

/-- Both chains stop with one fault, or both reach their answers, which are related. -/
inductive Agree (R : α → β → Prop) : Except ε α → Except ε β → Prop
  | fault (e : ε) : Agree R (.error e) (.error e)
  | answer {a : α} {b : β} (h : R a b) : Agree R (.ok a) (.ok b)

namespace Agree
variable {δ : Type} {R : α → β → Prop} {S : γ → δ → Prop} {x : Except ε α} {y : Except ε β}

theorem refl (x : Except ε α) : Agree Eq x x := by
  cases x with
  | error e => exact .fault e
  | ok a => exact .answer rfl

theorem map {f : α → γ} {g : β → δ} (h : Agree R x y) (hfg : ∀ a b, R a b → S (f a) (g b)) :
    Agree S (x.map f) (y.map g) := by
  cases h with
  | fault e => exact .fault e
  | answer h => exact .answer (hfg _ _ h)

theorem bind {f : α → Except ε γ} {g : β → Except ε δ} (h : Agree R x y)
    (hfg : ∀ a b, R a b → Agree S (f a) (g b)) : Agree S (x >>= f) (y >>= g) := by
  cases h with
  | fault e => exact .fault e
  | answer h => exact hfg _ _ h

theorem mapM {f : γ → Except ε α} {g : γ → Except ε β} {l : List γ} (h : ∀ c ∈ l, Agree R (f c) (g c)) :
    Agree (List.Forall₂ R) (l.mapM f) (l.mapM g) := by
  induction l with
  | nil => exact .answer .nil
  | cons c l ih =>
    rw [List.mapM_cons, List.mapM_cons]
    apply (h c List.mem_cons_self).bind
    intro a b hab
    apply (ih fun d hd => h d (List.mem_cons_of_mem _ hd)).bind
    intro as bs hrest
    exact .answer (.cons hab hrest)

end Agree

end

end TableLayout
