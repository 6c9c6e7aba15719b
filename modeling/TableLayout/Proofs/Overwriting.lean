import TableLayout.Proofs.Traversal

/-!
# What was said last

A fold over statements, of which later ones overrule earlier ones, answers a question with the last statement about
it, and with nothing where there is none.
-/

namespace TableLayout

section
variable {σ ι β : Type}

def IsLast (p : ι → Prop) (l : List ι) (i : ι) : Prop :=
  ∃ before after, l = before ++ i :: after ∧ p i ∧ ∀ j ∈ after, ¬p j

theorem IsLast.mem {p : ι → Prop} {l : List ι} {i : ι} (h : IsLast p l i) : i ∈ l := by
  obtain ⟨before, after, rfl, -⟩ := h
  simp

theorem IsLast.prop {p : ι → Prop} {l : List ι} {i : ι} (h : IsLast p l i) : p i := by
  obtain ⟨-, -, -, hi, -⟩ := h
  exact hi

theorem exists_isLast {p : ι → Prop} {l : List ι} (h : ∃ i ∈ l, p i) : ∃ i, IsLast p l i := by
  obtain ⟨before, i, after, hl, hi, hafter⟩ := exists_last h
  exact ⟨i, before, after, hl, hi, hafter⟩

theorem isLast_iff_getLast? {p : ι → Prop} [DecidablePred p] {l : List ι} {i : ι} :
    IsLast p l i ↔ (l.filter p).getLast? = some i := by
  rw [List.getLast?_eq_some_iff]
  constructor
  · rintro ⟨before, after, rfl, hi, hafter⟩
    have hnone : after.filter p = [] := by simpa using hafter
    exact ⟨before.filter p, by simp [hi, hnone]⟩
  · rintro ⟨front, hl⟩
    obtain ⟨before, rest, rfl, -, hrest⟩ := List.filter_eq_append_iff.mp hl
    obtain ⟨between, after, rfl, -, hi, hafter⟩ := List.filter_eq_cons_iff.mp hrest
    exact ⟨before ++ between, after, by simp, by simpa using hi, by simpa using hafter⟩

/-- A step that is told an answer gives it, and any other keeps the answer there was. -/
structure Overwrites (get : σ → Option β) (step : σ → ι → σ) (tells : ι → β → Prop) : Prop where
  told : ∀ s i b, tells i b → get (step s i) = some b
  silent : ∀ s i, (∀ b, ¬tells i b) → get (step s i) = get s

namespace Overwrites
variable {get : σ → Option β} {step : σ → ι → σ} {tells : ι → β → Prop} (h : Overwrites get step tells)
  {s : σ} {items : List ι} {b : β}
include h

theorem foldl_of_silent (hitems : ∀ i ∈ items, ∀ b, ¬tells i b) : get (items.foldl step s) = get s := by
  induction items generalizing s with
  | nil => rfl
  | cons i items ih =>
    rw [List.foldl_cons, ih fun j hj => hitems j (List.mem_cons_of_mem _ hj),
      h.silent s i (hitems i List.mem_cons_self)]

theorem foldl_of_isLast {i : ι} (hlast : IsLast (fun i => ∃ b, tells i b) items i) (hb : tells i b) :
    get (items.foldl step s) = some b := by
  obtain ⟨before, after, rfl, -, hafter⟩ := hlast
  rw [List.foldl_append, List.foldl_cons, h.foldl_of_silent fun j hj b hj' => hafter j hj ⟨b, hj'⟩]
  exact h.told _ i b hb

variable (hs : get s = none)
include hs

theorem foldl_eq_none_iff : get (items.foldl step s) = none ↔ ∀ i ∈ items, ∀ b, ¬tells i b := by
  constructor
  · intro hnone i hi b hb
    obtain ⟨j, hlast⟩ := exists_isLast (p := fun i => ∃ b, tells i b) ⟨i, hi, b, hb⟩
    obtain ⟨b', hb'⟩ := hlast.prop
    rw [h.foldl_of_isLast hlast hb'] at hnone
    cases hnone
  · intro hsilent
    rw [h.foldl_of_silent hsilent, hs]

theorem foldl_eq_some_iff :
    get (items.foldl step s) = some b ↔ ∃ i, IsLast (fun i => ∃ b, tells i b) items i ∧ tells i b := by
  constructor
  · intro hsome
    have htold : ∃ i ∈ items, ∃ b, tells i b := by
      by_contra hsilent
      push Not at hsilent
      rw [(h.foldl_eq_none_iff hs).mpr hsilent] at hsome
      cases hsome
    obtain ⟨i, hlast⟩ := exists_isLast htold
    obtain ⟨b', hb'⟩ := hlast.prop
    obtain rfl := Option.some.inj ((h.foldl_of_isLast hlast hb').symm.trans hsome)
    exact ⟨i, hlast, hb'⟩
  · rintro ⟨i, hlast, hb⟩
    exact h.foldl_of_isLast hlast hb

end Overwrites

end

end TableLayout
