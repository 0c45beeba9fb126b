import Mathlib.Data.List.Forall2

/-!
When a computation that may fail succeeds.
-/

namespace Harvest

variable {ε α β : Type} {x : Except ε α}

theorem bind_eq_ok {f : α → Except ε β} {b : β} : (x >>= f) = .ok b ↔ ∃ a, x = .ok a ∧ f a = .ok b := by
  cases x with
  | error e =>
    have failed : ((.error e : Except ε α) >>= f) = .error e := rfl
    simp [failed]
  | ok a =>
    have passed : ((.ok a : Except ε α) >>= f) = f a := rfl
    simp [passed]

theorem map_eq_ok {f : α → β} {b : β} : x.map f = .ok b ↔ ∃ a, x = .ok a ∧ f a = b := by
  cases x <;> simp [Except.map]

theorem except_map_id (x : Except ε α) : x.map (fun a => a) = x := by
  cases x <;> rfl

theorem exists_eq_ok_iff : (∃ a, x = .ok a) ↔ ∀ e, x ≠ .error e := by
  cases x <;> simp

theorem exists_eq_error_iff : (∃ e, x = .error e) ↔ ¬∃ a, x = .ok a := by
  cases x <;> simp

theorem mapM_eq_some {f : α → Option β} {as : List α} {bs : List β} :
    as.mapM f = some bs ↔ List.Forall₂ (fun a b => f a = some b) as bs := by
  induction as generalizing bs with
  | nil => simp [eq_comm]
  | cons a as ih =>
    simp only [List.mapM_cons, Option.bind_eq_bind, Option.bind_eq_some_iff, ih, Option.pure_def, Option.some.injEq,
      List.forall₂_cons_left_iff]
    constructor
    · rintro ⟨b, here, bs, later, rfl⟩
      exact ⟨b, bs, here, later, rfl⟩
    · rintro ⟨b, bs, here, later, rfl⟩
      exact ⟨b, here, bs, later, rfl⟩

/-- Computations on each item, one after the other, are one computation on each item. -/
theorem mapM_mapM_eq_some {γ : Type} {f : α → Option β} {g : β → Option γ} {as : List α} {cs : List γ} :
    (∃ bs, as.mapM f = some bs ∧ bs.mapM g = some cs) ↔
      List.Forall₂ (fun a c => ∃ b, f a = some b ∧ g b = some c) as cs := by
  simp only [mapM_eq_some]
  constructor
  · rintro ⟨bs, first, second⟩
    induction first generalizing cs with
    | nil =>
      cases second
      exact .nil
    | cons here _ ih =>
      cases second with
      | cons there rest => exact .cons ⟨_, here, there⟩ (ih rest)
  · intro each
    induction each with
    | nil => exact ⟨[], .nil, .nil⟩
    | cons both _ ih =>
      obtain ⟨b, here, there⟩ := both
      obtain ⟨bs, first, second⟩ := ih
      exact ⟨b :: bs, .cons here first, .cons there second⟩

theorem mapM_eq_map {f : α → Option β} {g : α → β} {as : List α} (each : ∀ a ∈ as, f a = some (g a)) :
    as.mapM f = some (as.map g) :=
  mapM_eq_some.2 (List.forall₂_map_right_iff.2 (List.forall₂_same.2 each))

theorem mapM_map_eq_some {f : β → Option α} {g : α → β} {as : List α} (each : ∀ a ∈ as, f (g a) = some a) :
    (as.map g).mapM f = some as :=
  mapM_eq_some.2 (List.forall₂_map_left_iff.2 (List.forall₂_same.2 each))

theorem exists_of_mapM_eq_some {f : α → Option β} {as : List α} {bs : List β} (found : as.mapM f = some bs) :
    ∀ b ∈ bs, ∃ a ∈ as, f a = some b := by
  have each := mapM_eq_some.1 found
  clear found
  intro b member
  induction each with
  | nil => cases member
  | cons here _ ih =>
    rcases List.mem_cons.1 member with rfl | later
    · exact ⟨_, List.mem_cons_self, here⟩
    · obtain ⟨a, among, here⟩ := ih later
      exact ⟨a, List.mem_cons_of_mem _ among, here⟩

end Harvest
