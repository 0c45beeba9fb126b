import Harvest.Proofs.Pipeline.Effect

/-!
Runs of several records. What every kind of step keeps, every run keeps: `run_keeps` for a relation between
the books and all records, `run_item` for what is true of one record by itself.
-/

namespace Harvest.Pipeline

variable {σ τ α β : Type} {p : Pipeline σ τ}

theorem set_split {items : List α} {n : Nat} {i : α} (found : items[n]? = some i) :
    ∃ before after, items = before ++ i :: after ∧ ∀ i', items.set n i' = before ++ i' :: after := by
  obtain ⟨inside, rfl⟩ := List.getElem?_eq_some_iff.1 found
  refine ⟨items.take n, items.drop (n + 1), ?_, ?_⟩
  · rw [List.getElem_cons_drop, List.take_append_drop]
  · intro i'
    rw [List.set_eq_take_append_cons_drop, if_pos inside]

theorem set_here {items : List α} {n : Nat} {i i' : α} (found : items[n]? = some i) :
    (items.set n i')[n]? = some i' :=
  List.getElem?_set_self (List.getElem?_eq_some_iff.1 found).1

theorem set_there {items : List α} {m n : Nat} {j i' : α} (other : n ≠ m) (found : items[m]? = some j) :
    (items.set n i')[m]? = some j := by
  rw [List.getElem?_set_ne other, found]

theorem set_cases {items : List α} {m n : Nat} {j i' : α} (found : (items.set n i')[m]? = some j) :
    m = n ∧ j = i' ∨ m ≠ n ∧ items[m]? = some j := by
  by_cases same : n = m
  · subst same
    rw [List.getElem?_set] at found
    split at found
    · split at found
      · exact .inl ⟨rfl, (Option.some.inj found).symm⟩
      · cases found
    · contradiction
  · rw [List.getElem?_set_ne same] at found
    exact .inr ⟨fun h => same h.symm, found⟩

/-- What is chosen from a list changes with one of its elements as if that element stood first. -/
theorem filterMap_set_perm (f : α → Option β) {items : List α} {n : Nat} {i : α}
    (found : items[n]? = some i) :
    ∃ rest, (items.filterMap f).Perm ((f i).toList ++ rest) ∧
      ∀ i', ((items.set n i').filterMap f).Perm ((f i').toList ++ rest) := by
  obtain ⟨before, after, whole, replaced⟩ := set_split found
  have first (i' : α) : ((before ++ i' :: after).filterMap f).Perm
      ((f i').toList ++ (before.filterMap f ++ after.filterMap f)) := by
    rw [List.filterMap_append, List.filterMap_cons]
    cases f i' with
    | none => exact .refl _
    | some x => exact List.perm_middle
  refine ⟨before.filterMap f ++ after.filterMap f, ?_, ?_⟩
  · rw [whole]
    exact first i
  · intro i'
    rw [replaced]
    exact first i'

theorem getElem?_arrived {records : List Record} {n : Nat} {i : Item}
    (found : (records.map (⟨·, .arrived⟩ : Record → Item))[n]? = some i) :
    ∃ r, records[n]? = some r ∧ i = ⟨r, .arrived⟩ := by
  rw [List.getElem?_map, Option.map_eq_some_iff] at found
  obtain ⟨r, given, same⟩ := found
  exact ⟨r, given, same.symm⟩

theorem filterMap_arrived {f : Item → Option β} (nothing : ∀ r, f ⟨r, .arrived⟩ = none) (records : List Record) :
    (records.map (⟨·, .arrived⟩ : Record → Item)).filterMap f = [] := by
  rw [List.filterMap_map, List.filterMap_eq_nil_iff]
  exact fun r _ => nothing r

namespace World

def outcome? (w : World σ τ) (n : Nat) : Option Outcome := w.items[n]?.bind Item.outcome?

theorem outcome?_eq_some {w : World σ τ} {n : Nat} {o : Outcome} :
    w.outcome? n = some o ↔ ∃ r, w.items[n]? = some ⟨r, .finished o⟩ := by
  unfold outcome?
  constructor
  · intro h
    obtain ⟨⟨r, stage⟩, found, ended⟩ := Option.bind_eq_some_iff.1 h
    cases stage <;> cases ended
    exact ⟨r, found⟩
  · rintro ⟨r, found⟩
    rw [found]
    rfl

theorem outcome?_of_item {w : World σ τ} {n : Nat} {i : Item} (found : w.items[n]? = some i) :
    w.outcome? n = i.outcome? := by rw [outcome?, found]; rfl

theorem isFinished_of_item {w : World σ τ} {n : Nat} {i : Item} (found : w.items[n]? = some i) :
    w.isFinished n = i.outcome?.isSome := by rw [isFinished, found, Option.all_some]

theorem active_or_still (w : World σ τ) (n : Nat) :
    (∃ i, w.items[n]? = some i ∧ i.outcome? = none) ∨ ∀ i, w.items[n]? = some i → i.outcome? ≠ none := by
  by_cases active : ∃ i, w.items[n]? = some i ∧ i.outcome? = none
  · exact .inl active
  · exact .inr fun i found unfinished => active ⟨i, found, unfinished⟩

theorem move_eq_self {w : World σ τ} {n : Nat} (still : ∀ i, w.items[n]? = some i → i.outcome? ≠ none) :
    w.move p n = w := by
  unfold move
  split
  · rfl
  · rename_i i found
    obtain ⟨r, stage⟩ := i
    cases stage with
    | finished o =>
      obtain ⟨inside, same⟩ := List.getElem?_eq_some_iff.1 found
      simp only [step, ← same, List.set_getElem_self]
    | _ => exact absurd rfl (still _ found)

theorem move_eq {w : World σ τ} {n : Nat} {i : Item} (found : w.items[n]? = some i) :
    w.move p n = ⟨(step p w.shared i).shared, w.items.set n (step p w.shared i).item⟩ := by
  simp only [move, found]

theorem move_here {w : World σ τ} {n : Nat} {i : Item} (found : w.items[n]? = some i) :
    (w.move p n).items[n]? = some (step p w.shared i).item := by
  rw [move_eq found]
  exact set_here found

theorem run_concat (p : Pipeline σ τ) (w : World σ τ) (moves : List Nat) (n : Nat) :
    w.run p (moves ++ [n]) = (w.run p moves).move p n := by
  rw [run_append]
  rfl

theorem move_cases (p : Pipeline σ τ) (w : World σ τ) (n : Nat) :
    w.move p n = w ∨ ∃ i i', w.items[n]? = some i ∧ i.outcome? = none ∧
      (w.move p n).items = w.items.set n i' ∧ Effect p w.shared.books i (w.move p n).shared.books i' := by
  rcases w.active_or_still n with ⟨i, found, unfinished⟩ | still
  · refine .inr ⟨i, (step p w.shared i).item, found, unfinished, ?_, ?_⟩
    · exact congrArg World.items (move_eq found)
    · rw [move_eq found]
      exact step_effect p w.shared i unfinished
  · exact .inl (move_eq_self still)

/-- What holds of the books and the records, and is kept by every kind of step of the records that move, is
kept by a run. -/
theorem run_keeps (Inv : Books σ → List Item → Prop) {moves : List Nat}
    (keep : ∀ {b items n i b' i'}, n ∈ moves → Inv b items → items[n]? = some i → i.outcome? = none →
      Effect p b i b' i' → Inv b' (items.set n i'))
    (w : World σ τ) (holds : Inv w.shared.books w.items) :
    Inv (w.run p moves).shared.books (w.run p moves).items := by
  induction moves generalizing w with
  | nil => exact holds
  | cons n moves ih =>
    rw [run_cons]
    apply ih (fun later => keep (List.mem_cons_of_mem n later))
    rcases move_cases p w n with same | ⟨i, i', found, unfinished, items, effect⟩
    · rw [same]
      exact holds
    · rw [items]
      exact keep List.mem_cons_self holds found unfinished effect

theorem run_length (p : Pipeline σ τ) (w : World σ τ) (moves : List Nat) :
    (w.run p moves).items.length = w.items.length := by
  refine run_keeps (fun _ items => items.length = w.items.length) ?_ w rfl
  intro b items n i b' i' _ same _ _ _
  rw [List.length_set, same]

/-- What holds of a record when it arrives, and is kept by its steps, holds of it in every run. -/
theorem run_item (Local : Record → Item → Prop) (start : ∀ r, Local r ⟨r, .arrived⟩)
    (keep : ∀ {r b i b' i'}, Local r i → Effect p b i b' i' → Local r i')
    {s : Shared σ τ} {records : List Record} {moves : List Nat} {n : Nat} {i : Item}
    (found : ((ofRecords s records).run p moves).items[n]? = some i) :
    ∃ r, records[n]? = some r ∧ Local r i := by
  refine run_keeps (p := p) (fun _ items => ∀ n i, items[n]? = some i → ∃ r, records[n]? = some r ∧ Local r i)
    ?_ (ofRecords s records) ?_ n i found
  · intro b items n i b' i' _ all here _ effect m j there
    rcases set_cases there with ⟨rfl, rfl⟩ | ⟨_, there⟩
    · obtain ⟨r, given, holds⟩ := all m i here
      exact ⟨r, given, keep holds effect⟩
    · exact all m j there
  · intro n i arrived
    obtain ⟨r, given, rfl⟩ := getElem?_arrived arrived
    exact ⟨r, given, start r⟩

theorem run_present (p : Pipeline σ τ) (s : Shared σ τ) {records : List Record} (moves : List Nat) {n : Nat}
    {r : Record} (given : records[n]? = some r) :
    ∃ i, ((ofRecords s records).run p moves).items[n]? = some i := by
  have inside := (List.getElem?_eq_some_iff.1 given).1
  have length := run_length p (ofRecords s records) moves
  simp only [ofRecords, List.length_map] at length
  exact ⟨_, List.getElem?_eq_getElem (by rw [ofRecords, length]; exact inside)⟩

theorem finished_of_isDone {w : World σ τ} (done : w.isDone = true) {n : Nat} {i : Item}
    (found : w.items[n]? = some i) : ∃ r o, i = ⟨r, .finished o⟩ := by
  have ended := List.all_eq_true.1 done i (List.mem_of_getElem? found)
  obtain ⟨r, stage⟩ := i
  cases stage with
  | finished o => exact ⟨r, o, rfl⟩
  | _ => cases ended

theorem move_other {w : World σ τ} {m n : Nat} (other : m ≠ n) : (w.move p m).items[n]? = w.items[n]? := by
  rcases move_cases p w m with same | ⟨i, i', _, _, items, _⟩
  · rw [same]
  · rw [items, List.getElem?_set_ne other]

/-- A record that takes as many steps as its stage has left comes to its end. -/
theorem isFinished_of_count {w : World σ τ} {moves : List Nat} {n : Nat} {i : Item}
    (found : w.items[n]? = some i) (enough : i.stage.rank ≤ moves.count n) :
    (w.run p moves).isFinished n = true := by
  induction moves generalizing w i with
  | nil =>
    have ended : i.outcome? ≠ none := by
      intro unfinished
      have closer := step_rank_lt p w.shared i unfinished
      have nothing : i.stage.rank = 0 := by simpa using enough
      omega
    simpa [run, isFinished, found, Option.isSome_iff_ne_none] using ended
  | cons m moves ih =>
    rw [run_cons]
    by_cases same : m = n
    · subst same
      by_cases unfinished : i.outcome? = none
      · have closer := step_rank_lt p w.shared i unfinished
        rw [List.count_cons_self] at enough
        exact ih (move_here found) (by omega)
      · have still : w.move p m = w := by
          apply move_eq_self
          intro j here
          rwa [← Option.some.inj (found.symm.trans here)]
        rw [still]
        apply ih found
        obtain ⟨r, stage⟩ := i
        cases stage with
        | finished o => exact Nat.zero_le _
        | _ => exact absurd rfl unfinished
    · rw [List.count_cons_of_ne (fun h => same h)] at enough
      exact ih ((move_other same).trans found) enough

end World

end Harvest.Pipeline
