import Harvest.Pipeline.Runner
import Harvest.Proofs.Pipeline.Order

/-!
Runs with a bounded number of records under way. Their turns are those of a run that starts its records in
order, and all records come to their end before the turns run out.
-/

namespace Harvest.Pipeline

variable {σ τ : Type} {p : Pipeline σ τ}

theorem arrive_pause (p : Pipeline σ τ) (s : Shared σ τ) (r : Record) : (arrive p s r).pause = .none := by
  unfold arrive
  repeat' split
  all_goals rfl

theorem judge_pause (p : Pipeline σ τ) (s : Shared σ τ) (r : Record)
    (answer : Except Harvest.Failure (Option StoredRecord)) : (judge p s r answer).pause = .none := by
  rcases answer with f | _ | existing <;> rfl

theorem conclude_pause (p : Pipeline σ τ) (s : Shared σ τ) (r : Record)
    (answer : Except Harvest.Failure StoredRecord) : (conclude p s r answer).pause = .none := by
  rcases answer with f | row <;> rfl

theorem Effect.unended {b b' : Books σ} {i i' : Item} (effect : Effect p b i b' i')
    (translating : i.stage.isTranslating = true) : i'.outcome? = none := by
  cases effect with
  | work planned work => exact Item.outcome?_of_isTranslating work.isTranslating.2
  | ready | unplanned => rfl
  | _ => cases translating

theorem step_pause (p : Pipeline σ τ) (s : Shared σ τ) {i : Item} (ended : (step p s i).item.outcome? ≠ none) :
    (step p s i).pause = .none := by
  obtain ⟨r, stage⟩ := i
  cases stage with
  | arrived => exact arrive_pause p s r
  | looked answer => exact judge_pause p s r answer
  | saved answer => exact conclude_pause p s r answer
  | finished o => rfl
  | looking | saving => exact absurd rfl ended
  | asking | asked => exact absurd ((step_effect p s _ rfl).unended rfl) ended

namespace World

variable {w : World σ τ} {n : Nat} {i : Item}

theorem goOn_finished (found : w.items[n]? = some i) (ended : i.outcome? ≠ none) : w.goOn p n = (w, .none) := by
  obtain ⟨inside, rfl⟩ := List.getElem?_eq_some_iff.1 found
  rw [goOn, found]
  simp only [Pipeline.goOn, ended, ↓reduceDIte, List.set_getElem_self]

theorem goOn_paused (found : w.items[n]? = some i) (unfinished : i.outcome? = none)
    (paused : (step p w.shared i).pause ≠ .none) : w.goOn p n = (w.move p n, (step p w.shared i).pause) := by
  rw [goOn, found, move_eq found]
  dsimp only
  rw [Pipeline.goOn, dif_pos unfinished, if_neg paused]

theorem goOn_move (found : w.items[n]? = some i) (unfinished : i.outcome? = none)
    (ongoing : (step p w.shared i).pause = .none) : w.goOn p n = (w.move p n).goOn p n := by
  rw [goOn, goOn, found, move_here found]
  dsimp only
  rw [Pipeline.goOn, dif_pos unfinished, if_pos ongoing, move_eq found]
  simp only [List.set_set]

/-- A record that goes on takes some steps, and it stops for a pause or at its end. -/
theorem goOn_spec (found : w.items[n]? = some i) (unfinished : i.outcome? = none) :
    ∃ k i', (w.goOn p n).1 = w.run p (List.replicate (k + 1) n) ∧ (w.goOn p n).1.items = w.items.set n i' ∧
      i'.stage.rank < i.stage.rank ∧ ((w.goOn p n).2 = .none ↔ i'.outcome? ≠ none) := by
  generalize left : i.stage.rank = rank
  induction rank using Nat.strongRecOn generalizing w i with
  | ind rank ih =>
    subst left
    have closer := step_rank_lt p w.shared i unfinished
    have here := move_here (p := p) found
    have items : (w.move p n).items = w.items.set n (step p w.shared i).item := by rw [move_eq found]
    by_cases ongoing : (step p w.shared i).pause = .none
    · rw [goOn_move found unfinished ongoing]
      by_cases ended : (step p w.shared i).item.outcome? = none
      · obtain ⟨k, i', moves, items', less, stops⟩ := ih _ closer here ended rfl
        refine ⟨k + 1, i', ?_, ?_, Nat.lt_trans less closer, stops⟩
        · rw [moves, List.replicate_succ (n := k + 1), run_cons]
        · rw [items', items, List.set_set]
      · rw [goOn_finished here ended]
        exact ⟨0, _, rfl, items, closer, iff_of_true rfl ended⟩
    · rw [goOn_paused found unfinished ongoing]
      refine ⟨0, _, rfl, items, closer, iff_of_false ongoing fun ended => ongoing (step_pause p _ ended)⟩

theorem isFinished_eq_false : w.isFinished n = false ↔ ∃ i, w.items[n]? = some i ∧ i.outcome? = none := by
  unfold isFinished
  cases w.items[n]? <;> simp

theorem isFinished_of_idle (p : Pipeline σ τ) (s : Shared σ τ) {records : List Record} {moves : List Nat} {r : Record}
    (given : records[n]? = some r) (idle : n ∉ moves) : ((ofRecords s records).run p moves).isFinished n = false :=
  isFinished_eq_false.2 ⟨⟨r, .arrived⟩, run_untouched p s given idle, rfl⟩

theorem isDone_or_active (w : World σ τ) : w.isDone = true ∨ ∃ n, w.isFinished n = false := by
  by_cases done : w.isDone = true
  · exact .inl done
  · rw [isDone, List.all_eq_true] at done
    push Not at done
    obtain ⟨i, member, unfinished⟩ := done
    obtain ⟨n, found⟩ := List.mem_iff_getElem?.1 member
    exact .inr ⟨n, isFinished_eq_false.2 ⟨i, found, by simpa using unfinished⟩⟩

theorem rank_cons (s : Shared σ τ) (i : Item) (items : List Item) :
    (⟨s, i :: items⟩ : World σ τ).rank = i.stage.rank + (⟨s, items⟩ : World σ τ).rank := rfl

theorem rank_append (s : Shared σ τ) (items more : List Item) :
    (⟨s, items ++ more⟩ : World σ τ).rank = (⟨s, items⟩ : World σ τ).rank + (⟨s, more⟩ : World σ τ).rank := by
  induction items with
  | nil => exact (Nat.zero_add _).symm
  | cons i items ih =>
    rw [List.cons_append, rank_cons, ih, rank_cons, Nat.add_assoc]

theorem rank_set {i' : Item} (s : Shared σ τ) (found : w.items[n]? = some i)
    (less : i'.stage.rank < i.stage.rank) : (⟨s, w.items.set n i'⟩ : World σ τ).rank < w.rank := by
  obtain ⟨before, after, whole, replaced⟩ := set_split found
  have same : w.rank = (⟨s, w.items⟩ : World σ τ).rank := rfl
  rw [same, replaced, whole, rank_append, rank_append, rank_cons, rank_cons]
  omega

theorem rank_move_lt (active : w.isFinished n = false) : (w.move p n).rank < w.rank := by
  obtain ⟨i, found, unfinished⟩ := isFinished_eq_false.1 active
  rw [move_eq found]
  exact rank_set _ found (step_rank_lt p w.shared i unfinished)

end World

namespace Agenda

def waiting (a : Agenda) : List Nat := a.yielded ++ a.asleep.map (·.2)

theorem pause_waiting (a : Agenda) (n : Nat) (pause : Pause) :
    (a.pause n pause).waiting.Perm ((if pause = .none then [] else [n]) ++ a.waiting) := by
  cases pause with
  | none => rfl
  | turn =>
    simp only [Agenda.pause, waiting, List.append_assoc, List.singleton_append]
    exact List.perm_middle
  | sleep ms =>
    simp only [Agenda.pause, waiting, List.map_append, List.map_singleton, ← List.append_assoc]
    exact List.perm_append_singleton _ _

theorem wake_waiting {a : Agenda} (idle : a.ready = []) : (a.wake.ready ++ a.wake.waiting).Perm a.waiting := by
  unfold wake
  split
  · rfl
  · rename_i none_yielded
    have none_yielded : a.yielded = [] := by simpa using none_yielded
    split
    · rw [idle]
      rfl
    · rename_i t _
      simp only [waiting, none_yielded, List.nil_append, ← List.map_append]
      apply List.Perm.map
      have parts := List.filter_append_perm (fun sleeper : Nat × Nat => decide (sleeper.1 = t)) a.asleep
      simpa using parts

theorem waiting_of_wake {a : Agenda} (idle : a.wake.ready = []) : a.waiting = [] := by
  unfold wake at idle
  split at idle
  · rename_i yielded
    exact absurd idle yielded
  · rename_i none_yielded
    have none_yielded : a.yielded = [] := by simpa using none_yielded
    split at idle
    · rename_i never
      rw [wakeTime?, List.min?_eq_none_iff, List.map_eq_nil_iff] at never
      rw [waiting, none_yielded, never]
      rfl
    · rename_i t first
      have member := List.min?_mem first
      obtain ⟨sleeper, asleep, rfl⟩ := List.mem_map.1 member
      have awake : sleeper ∈ a.asleep.filter fun s => decide (s.1 = sleeper.1) :=
        List.mem_filter.2 ⟨asleep, by simp⟩
      simp only [List.map_eq_nil_iff] at idle
      rw [idle] at awake
      cases awake

end Agenda

def Item.isOpen (i : Item) : Bool := i.outcome?.isNone

/-- Whenever a record takes its first step, fewer than `limit` of those before it have not ended. -/
def Bounded (p : Pipeline σ τ) (limit : Nat) (start : World σ τ) (moves : List Nat) : Prop :=
  ∀ before n after, moves = before ++ n :: after → n ∉ before →
    ((start.run p before).items.take n).countP Item.isOpen < limit

namespace Bounded

variable {limit : Nat} {start : World σ τ} {moves : List Nat} {n : Nat}

theorem nil : Bounded p limit start [] := by
  intro before n after same
  simp at same

theorem init (b : Bounded p limit start (moves ++ [n])) : Bounded p limit start moves := by
  intro before m after same
  exact b before m (after ++ [n]) (by rw [same, List.append_assoc, List.cons_append])

theorem concat (b : Bounded p limit start moves)
    (first : n ∉ moves → ((start.run p moves).items.take n).countP Item.isOpen < limit) :
    Bounded p limit start (moves ++ [n]) := by
  intro before m after same absent
  rcases List.eq_nil_or_concat after with rfl | ⟨after, last, rfl⟩
  · obtain ⟨rfl, single⟩ := List.append_inj' same rfl
    obtain rfl := List.singleton_inj.1 single
    exact first absent
  · rw [List.concat_eq_append, ← List.cons_append, ← List.append_assoc] at same
    exact b before m after (List.append_inj' same rfl).1 absent

theorem append_replicate (b : Bounded p limit start moves)
    (first : n ∉ moves → ((start.run p moves).items.take n).countP Item.isOpen < limit) (times : Nat) :
    Bounded p limit start (moves ++ List.replicate times n) := by
  induction times with
  | zero => simpa using b
  | succ times ih =>
    rw [List.replicate_succ', ← List.append_assoc]
    apply ih.concat
    intro absent
    cases times with
    | zero => simpa using first (by simpa using absent)
    | succ times => simp at absent

end Bounded

/-- Moves that start records in order, with a bounded number of them under way. -/
structure Disciplined (p : Pipeline σ τ) (limit : Nat) (start : World σ τ) (moves : List Nat) : Prop where
  inOrder : InOrder moves
  bounded : Bounded p limit start moves
  inside : ∀ n ∈ moves, n < start.items.length

theorem Disciplined.init {limit : Nat} {start : World σ τ} {moves : List Nat} {n : Nat}
    (d : Disciplined p limit start (moves ++ [n])) : Disciplined p limit start moves :=
  ⟨d.inOrder.init, d.bounded.init, fun m member => d.inside m (List.mem_append_left _ member)⟩

/-- Elements of which the places are all on a list are no more than it is long. -/
theorem countP_take_le {α : Type} {f : α → Bool} {items : List α} {n : Nat} {line : List Nat}
    (all : ∀ m < n, ∀ i, items[m]? = some i → f i = true → m ∈ line) : (items.take n).countP f ≤ line.length := by
  induction n generalizing line with
  | zero => simp
  | succ n ih =>
    rw [List.take_add_one, List.countP_append]
    by_cases last : ∃ i, items[n]? = some i ∧ f i = true
    · obtain ⟨i, found, chosen⟩ := last
      have member := all n (Nat.lt_succ_self n) i found chosen
      have before : (items.take n).countP f ≤ (line.erase n).length := by
        apply ih
        intro m smaller j there chosen
        exact (List.mem_erase_of_ne (Nat.ne_of_lt smaller)).2 (all m (Nat.lt_succ_of_lt smaller) j there chosen)
      rw [List.length_erase_of_mem member] at before
      have positive := List.length_pos_of_mem member
      have single : items[n]?.toList.countP f = 1 := by simp [found, chosen]
      omega
    · have nothing : items[n]?.toList.countP f = 0 := by
        rw [List.countP_eq_zero]
        intro i here chosen
        exact last ⟨i, Option.mem_toList.1 here, chosen⟩
      rw [nothing, Nat.add_zero]
      exact ih fun m smaller => all m (Nat.lt_succ_of_lt smaller)

/-- The state of a run after `moves`: the records that were started and have not ended stand in `todo` or have
paused, and those that have not begun stand in `todo` in their order. -/
structure OnDuty (p : Pipeline σ τ) (limit : Nat) (start : World σ τ) (moves : List Nat) (started : Nat)
    (todo waiting : List Nat) : Prop where
  bounded : Bounded p limit start moves
  room : (todo ++ waiting).length ≤ limit
  inOrder : InOrder moves
  begun : ∀ n ∈ moves, n < started
  within : started ≤ start.items.length
  nodup : (todo ++ waiting).Nodup
  active : ∀ n, n ∈ todo ++ waiting ↔ n < started ∧ (start.run p moves).isFinished n = false
  moved : ∀ n ∈ waiting, n ∈ moves
  queued : todo.Pairwise fun m n => n ∉ moves → m < n

namespace OnDuty

variable {s : Shared σ τ} {records : List Record} {moves todo waiting : List Nat} {limit started n : Nat}

theorem disciplined (d : OnDuty p limit (.ofRecords s records) moves started todo waiting) :
    Disciplined p limit (.ofRecords s records) moves :=
  ⟨d.inOrder, d.bounded, fun n member => Nat.lt_of_lt_of_le (d.begun n member) d.within⟩

theorem mem_of_not_begun (d : OnDuty p limit (.ofRecords s records) moves started todo waiting) (within : n < started)
    (idle : n ∉ moves) : n ∈ todo := by
  have inside : n < records.length := by
    have length := d.within
    simp only [World.ofRecords, List.length_map] at length
    exact Nat.lt_of_lt_of_le within length
  have member := (d.active n).2 ⟨within, World.isFinished_of_idle p s (List.getElem?_eq_getElem inside) idle⟩
  rcases List.mem_append.1 member with queued | paused
  · exact queued
  · exact absurd (d.moved n paused) idle

theorem all_before (d : OnDuty p limit (.ofRecords s records) moves started (n :: todo) waiting) :
    ∀ k < n, k ∈ moves := by
  by_cases begun : n ∈ moves
  · exact d.inOrder.all_of_mem begun
  · intro k smaller
    by_cases moved : k ∈ moves
    · exact moved
    · have within := ((d.active n).1 (by simp)).1
      rcases List.mem_cons.1 (d.mem_of_not_begun (Nat.lt_trans smaller within) moved) with rfl | later
      · exact absurd smaller (Nat.lt_irrefl k)
      · have larger := (List.pairwise_cons.1 d.queued).1 k later moved
        omega

theorem advance (d : OnDuty p limit (.ofRecords s records) moves started (n :: todo) waiting) (k : Nat)
    {waiting' : List Nat} :
    let w := (World.ofRecords s records).run p (moves ++ List.replicate (k + 1) n)
    (∀ m, m ≠ n → w.isFinished m = ((World.ofRecords s records).run p moves).isFinished m) →
    waiting'.Perm ((if w.isFinished n then [] else [n]) ++ waiting) →
    OnDuty p limit (.ofRecords s records) (moves ++ List.replicate (k + 1) n) started todo waiting' := by
  intro w others line
  have within := ((d.active n).1 (by simp)).1
  obtain ⟨absent, nodup⟩ := List.nodup_cons.1 d.nodup
  have whole : (todo ++ waiting').Perm ((if w.isFinished n then [] else [n]) ++ (todo ++ waiting)) := by
    rw [← List.append_assoc]
    exact (line.append_left todo).trans ((List.perm_append_comm_assoc ..).trans (.of_eq (List.append_assoc ..).symm))
  refine ⟨d.bounded.append_replicate ?_ (k + 1), ?_, d.inOrder.append_replicate d.all_before (k + 1), ?_, d.within, ?_,
    ?_, ?_, ?_⟩
  · intro _
    have open_before : (((World.ofRecords s records).run p moves).items.take n).countP Item.isOpen ≤
        (todo ++ waiting).length := by
      apply countP_take_le
      intro m smaller i found unfinished
      have unfinished : i.outcome? = none := Option.isNone_iff_eq_none.1 unfinished
      have member := (d.active m).2 ⟨Nat.lt_trans smaller within, World.isFinished_eq_false.2 ⟨i, found, unfinished⟩⟩
      rw [List.cons_append] at member
      exact (List.mem_cons.1 member).resolve_left (Nat.ne_of_lt smaller)
    exact Nat.lt_of_le_of_lt open_before d.room
  · refine Nat.le_trans (Nat.le_of_eq whole.length_eq) (Nat.le_trans ?_ d.room)
    split <;> simp
  · intro m member
    rcases List.mem_append.1 member with before | now
    · exact d.begun m before
    · exact (List.mem_replicate.1 now).2 ▸ within
  · rw [whole.nodup_iff]
    split
    · exact nodup
    · exact d.nodup
  · intro m
    rw [whole.mem_iff, List.mem_append]
    by_cases same : m = n
    · subst same
      have absent : m ∉ todo ++ waiting := absent
      cases w.isFinished m <;> simp [absent, within]
    · have apart : m ∉ (if w.isFinished n then [] else [n]) := by split <;> simp [same]
      rw [others m same, ← d.active m]
      simp [apart, same]
  · intro m paused
    rcases List.mem_append.1 (line.mem_iff.1 paused) with now | before
    · have same : m = n := by
        split at now
        · cases now
        · exact List.mem_singleton.1 now
      exact List.mem_append_right _ (by simp [same])
    · exact List.mem_append_left _ (d.moved m before)
  · exact (List.pairwise_cons.1 d.queued).2.imp fun order idle =>
      order fun moved => idle (List.mem_append_left _ moved)

theorem poll {w : World σ τ} {a : Agenda} (world : w = (World.ofRecords s records).run p moves)
    (d : OnDuty p limit (.ofRecords s records) moves started (n :: todo) a.waiting) :
    ∃ more, (w.goOn p n).1 = (World.ofRecords s records).run p more ∧
      OnDuty p limit (.ofRecords s records) more started todo (a.pause n (w.goOn p n).2).waiting ∧
      (w.goOn p n).1.rank < w.rank ∧
      (todo ++ (a.pause n (w.goOn p n).2).waiting).length + (if (w.goOn p n).1.isFinished n then 1 else 0) =
        (n :: todo ++ a.waiting).length := by
  subst world
  obtain ⟨i, found, unfinished⟩ := World.isFinished_eq_false.1 ((d.active n).1 (by simp)).2
  obtain ⟨k, i', moved, items, less, stops⟩ := World.goOn_spec (p := p) found unfinished
  rw [← World.run_append] at moved
  generalize ((World.ofRecords s records).run p moves).goOn p n = next at moved items stops ⊢
  have ended : next.1.isFinished n = true ↔ next.2 = .none := by
    rw [World.isFinished, items, set_here found, Option.all_some, stops, Option.isSome_iff_ne_none]
  have line := a.pause_waiting n next.2
  simp only [← ended] at line
  refine ⟨moves ++ List.replicate (k + 1) n, moved, ?_, ?_, ?_⟩
  · apply d.advance k
    · intro m other
      rw [← moved, World.isFinished, items, List.getElem?_set_ne (Ne.symm other), World.isFinished]
    · rwa [← moved]
  · have less := World.rank_set next.1.shared found less
    rwa [← items] at less
  · rw [List.length_append, line.length_eq]
    cases next.1.isFinished n <;> simp
    omega

/-- The records in line go on one after the other, until one of them ends. -/
theorem drain {t : Progress σ τ} (world : t.world = (World.ofRecords s records).run p moves)
    (d : OnDuty p limit (.ofRecords s records) moves started todo t.agenda.waiting) :
    let next := t.drain p todo
    ∃ more, next.2.world = (World.ofRecords s records).run p more ∧
      OnDuty p limit (.ofRecords s records) more started next.2.agenda.ready next.2.agenda.waiting ∧
      next.2.world.rank + (if todo = [] then 0 else 1) ≤ t.world.rank ∧
      (next.2.agenda.ready ++ next.2.agenda.waiting).length + (if next.1 then 1 else 0) =
        (todo ++ t.agenda.waiting).length ∧
      (next.1 = false → next.2.agenda.ready = []) := by
  induction todo generalizing t moves with
  | nil => exact ⟨moves, world, d, Nat.le_refl _, rfl, fun _ => rfl⟩
  | cons n rest ih =>
    obtain ⟨more, world', d', less, length⟩ := d.poll world
    cases ended : (t.world.goOn p n).1.isFinished n with
    | true =>
      rw [ended] at length
      have drained : t.drain p (n :: rest) = (true, (t.poll p n).setReady rest) := by
        rw [Progress.drain]
        exact if_pos ended
      rw [drained]
      exact ⟨more, world', d', less, length, fun h => by cases h⟩
    | false =>
      rw [ended] at length
      have drained : t.drain p (n :: rest) = (t.poll p n).drain p rest := by
        rw [Progress.drain]
        exact if_neg (by simpa [Progress.poll] using ended)
      rw [drained]
      obtain ⟨moves', world'', d'', less', length', idle⟩ := ih (t := t.poll p n) world' d'
      refine ⟨moves', world'', d'', ?_, length'.trans length, idle⟩
      have less : (t.poll p n).world.rank < t.world.rank := less
      rw [if_neg (List.cons_ne_nil n rest)]
      omega

theorem start (d : OnDuty p limit (.ofRecords s records) moves started todo waiting)
    (free : (todo ++ waiting).length < limit) (inside : started < records.length) :
    OnDuty p limit (.ofRecords s records) moves (started + 1) (todo ++ [started]) waiting := by
  have idle : started ∉ moves := fun member => Nat.lt_irrefl _ (d.begun started member)
  have absent : started ∉ todo ++ waiting := fun member => Nat.lt_irrefl _ ((d.active started).1 member).1
  have line : (todo ++ [started] ++ waiting).Perm (started :: (todo ++ waiting)) := by
    rw [List.append_assoc]
    exact List.perm_middle
  refine ⟨d.bounded, ?_, d.inOrder, fun n member => Nat.lt_succ_of_lt (d.begun n member), ?_, ?_, ?_, d.moved, ?_⟩
  · rw [line.length_eq]
    exact free
  · rw [World.ofRecords, List.length_map]
    exact inside
  · exact line.nodup_iff.2 (List.nodup_cons.2 ⟨absent, d.nodup⟩)
  · intro n
    rw [line.mem_iff, List.mem_cons, d.active n]
    have unfinished := World.isFinished_of_idle p s (List.getElem?_eq_getElem inside) idle
    constructor
    · rintro (rfl | ⟨before, active⟩)
      · exact ⟨Nat.lt_succ_self n, unfinished⟩
      · exact ⟨Nat.lt_succ_of_lt before, active⟩
    · rintro ⟨within, active⟩
      rcases Nat.lt_succ_iff_lt_or_eq.1 within with before | rfl
      · exact .inr ⟨before, active⟩
      · exact .inl rfl
  · rw [List.pairwise_append]
    refine ⟨d.queued, List.pairwise_singleton _ _, ?_⟩
    intro m member n last _
    rw [List.mem_singleton.1 last]
    exact ((d.active m).1 (List.mem_append_left _ member)).1

theorem wake {a : Agenda} (idle : a.ready = [])
    (d : OnDuty p limit (.ofRecords s records) moves started [] a.waiting) :
    OnDuty p limit (.ofRecords s records) moves started a.wake.ready a.wake.waiting := by
  have line := Agenda.wake_waiting idle
  have moved (n : Nat) (member : n ∈ a.wake.ready ++ a.wake.waiting) : n ∈ moves :=
    d.moved n (line.mem_iff.1 member)
  refine ⟨d.bounded, line.length_eq ▸ d.room, d.inOrder, d.begun, d.within, line.nodup_iff.2 d.nodup, ?_, ?_, ?_⟩
  · intro n
    rw [line.mem_iff]
    exact d.active n
  · exact fun n member => moved n (List.mem_append_right _ member)
  · apply List.pairwise_of_forall_mem_list
    intro m _ n later idle
    exact absurd (moved n (List.mem_append_left _ later)) idle

end OnDuty

namespace Shift

variable {s : Shared σ τ} {records : List Record} {limit : Nat}

/-- A shift in good order: the records that were started and have not ended are as many as it counts. -/
structure Sound (p : Pipeline σ τ) (limit : Nat) (s : Shared σ τ) (records : List Record) (t : Shift σ τ) : Prop where
  duty : ∃ moves, t.progress.world = (World.ofRecords s records).run p moves ∧
    OnDuty p limit (.ofRecords s records) moves t.started t.progress.agenda.ready t.progress.agenda.waiting
  active : t.active = (t.progress.agenda.ready ++ t.progress.agenda.waiting).length

/-- A bound for the number of turns that are left. A turn in which no record takes a step only starts a record
or wakes some up. -/
def potential (records : List Record) (t : Shift σ τ) : Nat :=
  2 * t.progress.world.rank + 3 * (records.length - t.started) +
    if t.progress.agenda.ready = [] then 1 else 0

theorem Sound.length {t : Shift σ τ} (g : Sound p limit s records t) :
    t.progress.world.items.length = records.length := by
  obtain ⟨moves, world, _⟩ := g.duty
  rw [world, World.run_length, World.ofRecords, List.length_map]

theorem Sound.start {t : Shift σ τ} (g : Sound p limit s records t) :
    (t.start limit = none ∧ (limit ≤ t.active ∨ records.length ≤ t.started)) ∨
    ∃ u, t.start limit = some u ∧ Sound p limit s records u ∧ u.progress.agenda.ready ≠ [] ∧
      u.potential records + 3 ≤ t.potential records := by
  have length := g.length
  unfold Shift.start
  split
  · rename_i room
    rw [length] at room
    obtain ⟨moves, world, duty⟩ := g.duty
    have active := g.active
    refine .inr ⟨_, rfl, ⟨⟨moves, world, duty.start (active ▸ room.1) room.2⟩, ?_⟩, by simp [Progress.setReady], ?_⟩
    · simp only [Progress.setReady, List.length_append, List.length_singleton] at active ⊢
      have same : Agenda.waiting { t.progress.agenda with ready := t.progress.agenda.ready ++ [t.started] } =
          t.progress.agenda.waiting := rfl
      rw [same]
      omega
    · simp only [potential, Progress.setReady, List.append_eq_nil_iff, List.cons_ne_nil, and_false, ↓reduceIte]
      omega
  · rename_i full
    rw [length] at full
    exact .inl ⟨rfl, by omega⟩

theorem Sound.drain {t : Shift σ τ} (g : Sound p limit s records t) {ended : Bool} {after : Progress σ τ}
    (drained : t.progress.drain p t.progress.agenda.ready = (ended, after)) :
    let u : Shift σ τ := ⟨after, t.started, if ended then t.active - 1 else t.active⟩
    Sound p limit s records u ∧
      u.potential records + (if t.progress.agenda.ready = [] then 0 else 1) ≤ t.potential records ∧
      (ended = false → after.agenda.ready = []) ∧ (ended = true → t.progress.agenda.ready ≠ []) := by
  obtain ⟨moves, world, duty⟩ := g.duty
  have active := g.active
  obtain ⟨more, world', duty', less, length, idle⟩ := duty.drain world
  rw [drained] at world' duty' less length idle
  dsimp only at world' duty' less length idle
  refine ⟨⟨⟨more, world', duty'⟩, ?_⟩, ?_, idle, ?_⟩
  · rw [active, ← length]
    cases ended <;> simp
  · simp only [potential]
    have last : (if after.agenda.ready = [] then 1 else 0) ≤ 1 := by split <;> decide
    by_cases line : t.progress.agenda.ready = []
    · rw [if_pos line] at less ⊢
      rw [if_pos line]
      omega
    · rw [if_neg line] at less ⊢
      rw [if_neg line]
      omega
  · rintro rfl line
    rw [line] at drained
    cases drained

theorem Sound.wake {t : Shift σ τ} (g : Sound p limit s records t) (idle : t.progress.agenda.ready = [])
    (awake : t.progress.agenda.wake.ready ≠ []) :
    let u : Shift σ τ := { t with progress := ⟨t.progress.world, t.progress.agenda.wake⟩ }
    Sound p limit s records u ∧ u.potential records + 1 ≤ t.potential records := by
  obtain ⟨moves, world, duty⟩ := g.duty
  have active := g.active
  rw [idle] at duty active
  refine ⟨⟨⟨moves, world, duty.wake idle⟩, ?_⟩, ?_⟩
  · rw [active]
    exact (Agenda.wake_waiting idle).length_eq.symm
  · simp only [potential, idle, awake, ↓reduceIte]
    omega

theorem Sound.isDone {t : Shift σ τ} (g : Sound p limit s records t) (positive : 0 < limit)
    (full : limit ≤ t.active ∨ records.length ≤ t.started) (idle : t.progress.agenda.ready = [])
    (alone : t.progress.agenda.waiting = []) : t.progress.world.isDone = true := by
  obtain ⟨moves, world, duty⟩ := g.duty
  have active := g.active
  rw [idle, alone] at duty active
  have all : records.length ≤ t.started := by
    rcases full with full | all
    · simp only [List.append_nil, List.length_nil] at active
      omega
    · exact all
  rcases t.progress.world.isDone_or_active with done | ⟨n, unfinished⟩
  · exact done
  · obtain ⟨i, found, _⟩ := World.isFinished_eq_false.1 unfinished
    have inside := (List.getElem?_eq_some_iff.1 found).1
    rw [g.length] at inside
    rw [world] at unfinished
    cases (duty.active n).2 ⟨Nat.lt_of_lt_of_le inside all, unfinished⟩

theorem isDone_of_rank (p : Pipeline σ τ) {w : World σ τ} (none_left : w.rank = 0) : w.isDone = true := by
  rcases w.isDone_or_active with done | ⟨n, unfinished⟩
  · exact done
  · have less := World.rank_move_lt (p := p) unfinished
    omega

/-- A shift that has turns enough brings all records to their end, and starts them in order. -/
theorem Sound.work {t : Shift σ τ} (g : Sound p limit s records t) (positive : 0 < limit) {fuel : Nat}
    (enough : t.potential records ≤ fuel) :
    ∃ moves, (t.work p limit fuel).progress.world = (World.ofRecords s records).run p moves ∧
      Disciplined p limit (.ofRecords s records) moves ∧ (t.work p limit fuel).progress.world.isDone = true := by
  induction fuel generalizing t with
  | zero =>
    obtain ⟨moves, world, duty⟩ := g.duty
    refine ⟨moves, world, duty.disciplined, isDone_of_rank p ?_⟩
    simp only [potential] at enough
    rw [Shift.work]
    omega
  | succ fuel ih =>
    rw [Shift.work]
    dsimp only
    rcases g.start with ⟨starts, full⟩ | ⟨u, starts, g', line, less⟩
    · rw [starts, Option.getD_none]
      rcases drained : t.progress.drain p t.progress.agenda.ready with ⟨_ | _, after⟩
      · obtain ⟨g', less, idle, _⟩ := g.drain drained
        simp only [Option.isSome_none, Bool.false_eq_true, ↓reduceIte] at g' less ⊢
        split
        · rename_i asleep
          obtain ⟨moves, world, duty⟩ := g'.duty
          exact ⟨moves, world, duty.disciplined, g'.isDone positive full (idle rfl) (Agenda.waiting_of_wake asleep)⟩
        · rename_i awake
          obtain ⟨g'', less'⟩ := g'.wake (idle rfl) awake
          dsimp only at less'
          refine ih g'' ?_
          omega
      · obtain ⟨g', less, _, line⟩ := g.drain drained
        simp only [line rfl, ↓reduceIte] at g' less
        refine ih g' ?_
        omega
    · rw [starts, Option.getD_some]
      rcases drained : u.progress.drain p u.progress.agenda.ready with ⟨_ | _, after⟩
      · obtain ⟨g'', less', _⟩ := g'.drain drained
        simp only [Option.isSome_some, Bool.false_eq_true, ↓reduceIte] at g'' less' ⊢
        refine ih g'' ?_
        omega
      · obtain ⟨g'', less', _⟩ := g'.drain drained
        simp only [↓reduceIte] at g'' less'
        refine ih g'' ?_
        omega

end Shift

theorem runBounded_spec (p : Pipeline σ τ) {limit : Nat} (positive : 0 < limit) (s : Shared σ τ)
    (records : List Record) :
    ∃ moves, (runBounded p limit (World.ofRecords s records)).1 = (World.ofRecords s records).run p moves ∧
      Disciplined p limit (.ofRecords s records) moves ∧
      ((World.ofRecords s records).run p moves).isDone = true := by
  let t : Shift σ τ := ⟨⟨World.ofRecords s records, { ready := [] }⟩, 0, 0⟩
  have sound : Shift.Sound p limit s records t := by
    refine ⟨⟨[], rfl, ?_⟩, rfl⟩
    refine ⟨.nil, Nat.zero_le _, fun before m after same => by simp at same, List.forall_mem_nil _, Nat.zero_le _,
      List.nodup_nil, fun n => ?_, List.forall_mem_nil _, .nil⟩
    exact iff_of_false (by simp [t, Agenda.waiting]) fun within => Nat.not_lt_zero n within.1
  have enough : t.potential records ≤ Shift.fuel (World.ofRecords s records) := by
    simp [Shift.potential, Shift.fuel, t, World.ofRecords]
  obtain ⟨moves, world, disciplined, done⟩ := sound.work positive enough
  have same : (runBounded p limit (World.ofRecords s records)).1 =
      (t.work p limit (Shift.fuel (World.ofRecords s records))).progress.world := rfl
  rw [same]
  exact ⟨moves, world, disciplined, world ▸ done⟩

/-- A run of all records is a run that starts them in order, whatever its concurrency. -/
theorem runAll_spec (p : Pipeline σ τ) (concurrency : Nat) (s : Shared σ τ) (records : List Record) :
    ∃ entries moves, let w := (World.ofRecords (s.note entries) records).run { p with report := failureNotes } moves
      InOrder moves ∧ w.isDone = true ∧ (runAll p concurrency s records).1 = ⟨records.length, w.shared.counters⟩ ∧
        (runAll p concurrency s records).2.1.books = w.shared.books := by
  obtain ⟨moves, world, disciplined, done⟩ := runBounded_spec { p with report := failureNotes }
    (Nat.lt_of_lt_of_le Nat.zero_lt_one (Nat.le_max_left 1 concurrency))
    (s.note [Log.info s!"Running {p.name} with concurrency {max 1 concurrency}"]) records
  refine ⟨_, moves, disciplined.inOrder, done, ?_, ?_⟩
  · rw [← world]
    rfl
  · rw [← world]
    rfl

end Harvest.Pipeline
