import Harvest.Proofs.Pipeline.Balance
import Harvest.Proofs.Pipeline.Bounded
import Mathlib.Data.List.Sigma

/-!
Runs as they happen. Records are taken from a stream into a pool while it has room, those in the pool take their
steps in any order, and the pipeline is closed once the stream has run dry and all records have ended. Taking and ending
are counted in different places; the two counts meet when the pipeline is closed, whatever failed before.
-/

namespace Harvest.Pipeline

variable {σ τ : Type} {p : Pipeline σ τ}

namespace World

variable {w : World σ τ} {n : Nat}

theorem isFinished_of_isDone (done : w.isDone = true) (n : Nat) : w.isFinished n = true := by
  rw [← Bool.not_eq_false, isFinished_eq_false]
  rintro ⟨i, found, unfinished⟩
  obtain ⟨r, o, rfl⟩ := finished_of_isDone done found
  cases unfinished

theorem countP_isOpen_of_isDone (done : w.isDone = true) : w.items.countP Item.isOpen = 0 := by
  rw [List.countP_eq_zero]
  intro i member unfinished
  obtain ⟨n, found⟩ := List.mem_iff_getElem?.1 member
  obtain ⟨r, o, rfl⟩ := finished_of_isDone done found
  cases unfinished

theorem mem_of_isDone {s : Shared σ τ} {records : List Record} {moves : List Nat}
    (done : ((ofRecords s records).run p moves).isDone = true) (inside : n < records.length) : n ∈ moves := by
  obtain ⟨i, found⟩ := run_present p s moves (List.getElem?_eq_getElem inside)
  obtain ⟨r, o, rfl⟩ := finished_of_isDone done found
  by_contra idle
  cases (run_arrived found).2 idle

theorem countP_isOpen_move_le (active : w.isFinished n = false) :
    (w.move p n).items.countP Item.isOpen ≤ w.items.countP Item.isOpen := by
  obtain ⟨i, found, unfinished⟩ := isFinished_eq_false.1 active
  have balance := countP_set_add Item.isOpen found (step p w.shared i).item
  have counted : i.isOpen = true := by rw [Item.isOpen, unfinished, Option.isNone_none]
  have most := Bool.toNat_le (step p w.shared i).item.isOpen
  rw [counted, Bool.toNat_true] at balance
  rw [move_eq found]
  dsimp only
  omega

theorem ofRecords_append (s : Shared σ τ) (records more : List Record) :
    ofRecords s (records ++ more) = ⟨s, (ofRecords s records).items ++ more.map (⟨·, .arrived⟩)⟩ := by
  simp only [ofRecords, List.map_append]

/-- Records that come later change nothing for those that are there. -/
theorem move_append (inside : n < w.items.length) (more : List Item) :
    (⟨w.shared, w.items ++ more⟩ : World σ τ).move p n = ⟨(w.move p n).shared, (w.move p n).items ++ more⟩ := by
  have found := List.getElem?_eq_getElem inside
  have found' : (w.items ++ more)[n]? = some w.items[n] := by rw [List.getElem?_append_left inside, found]
  rw [move_eq found, move_eq (w := ⟨w.shared, w.items ++ more⟩) found']
  simp only [List.set_append_left _ _ inside]

theorem run_append_items {moves : List Nat} (inside : ∀ n ∈ moves, n < w.items.length) (more : List Item) :
    (⟨w.shared, w.items ++ more⟩ : World σ τ).run p moves =
      ⟨(w.run p moves).shared, (w.run p moves).items ++ more⟩ := by
  induction moves using List.reverseRecOn with
  | nil => rfl
  | append_singleton before n ih =>
    have within : n < (w.run p before).items.length := by
      rw [run_length]
      exact inside n (by simp)
    rw [run_concat, run_concat, ih fun m member => inside m (List.mem_append_left _ member)]
    exact move_append within more

end World

/-- A run under way. -/
structure Pool (σ τ : Type) where
  /-- The records that are still to come. -/
  stream : List Record
  /-- How many records were taken from the stream. -/
  received : Nat := 0
  world : World σ τ
  /-- The records that entered the pipeline, with their indices. -/
  entered : List (Record × Nat) := []
  /-- What the run returned, after the pipeline was closed. -/
  result? : Option (Summary × Shared σ τ) := none

inductive Event
  /-- The next record of the stream is taken. -/
  | take
  /-- The record with index `n` takes a step. -/
  | move (n : Nat)
  | close
deriving DecidableEq

def Event.moved? : Event → Option Nat
  | move n => some n
  | _ => none

/-- The steps that records take in a run. -/
def movesOf (events : List Event) : List Nat := events.filterMap Event.moved?

theorem movesOf_concat (events : List Event) (e : Event) :
    movesOf (events ++ [e]) = movesOf events ++ e.moved?.toList := by
  rw [movesOf, movesOf, List.filterMap_append]
  cases e <;> rfl

theorem movesOf_move (events : List Event) (n : Nat) : movesOf (events ++ [.move n]) = movesOf events ++ [n] :=
  movesOf_concat events (.move n)

theorem movesOf_take (events : List Event) : movesOf (events ++ [.take]) = movesOf events :=
  (movesOf_concat events .take).trans (List.append_nil _)

namespace Pool

def start (p : Pipeline σ τ) (concurrency : Nat) (s : Shared σ τ) (records : List Record) : Pool σ τ where
  stream := records
  world := ⟨s.note [Log.info s!"Running {p.name} with concurrency {max 1 concurrency}"], []⟩

def unfinished (t : Pool σ τ) : Nat := t.world.items.countP Item.isOpen

/-- A record is taken while there is room, and the pipeline is closed once, after all records have ended. -/
def Enabled (limit : Nat) (t : Pool σ τ) : Event → Prop
  | .take => t.stream ≠ [] ∧ t.unfinished < limit
  | .move n => t.world.isFinished n = false
  | .close => t.stream = [] ∧ t.world.isDone = true ∧ t.result? = none

/-- The record that enters the pipeline by a step: the one that takes it, if it has just arrived. -/
def entering (t : Pool σ τ) (n : Nat) : List (Record × Nat) :=
  match t.world.items[n]? with
  | some ⟨r, .arrived⟩ => [(r, n)]
  | _ => []

def next (p : Pipeline σ τ) (t : Pool σ τ) : Event → Pool σ τ
  | .take =>
    { t with
      stream := t.stream.tail
      received := t.received + 1
      world := ⟨t.world.shared, t.world.items ++ (t.stream.take 1).map (⟨·, .arrived⟩)⟩ }
  | .move n => { t with world := t.world.move p n, entered := t.entered ++ t.entering n }
  | .close =>
    let s := t.world.shared
    { t with result? := some (⟨t.received, s.counters⟩, s.note [closingNote p s.counters]) }

/-- The pools that a run comes to, with the events that lead there. -/
inductive Reached (p : Pipeline σ τ) (limit : Nat) (origin : Pool σ τ) : List Event → Pool σ τ → Prop
  | origin : Reached p limit origin [] origin
  | next {events : List Event} {t : Pool σ τ} {e : Event} (reached : Reached p limit origin events t)
      (enabled : t.Enabled limit e) : Reached p limit origin (events ++ [e]) (t.next p e)

/-- A bound for the number of events that are left. -/
def left (t : Pool σ τ) : Nat := 12 * t.stream.length + t.world.rank + t.result?.elim 1 fun _ => 0

variable {limit : Nat} {t : Pool σ τ} {e : Event} {s : Shared σ τ} {records : List Record} {moves : List Nat}

theorem next_left_lt (enabled : t.Enabled limit e) : (t.next p e).left < t.left := by
  cases e with
  | take =>
    obtain ⟨stream, received, world, entered, result?⟩ := t
    cases stream with
    | nil => exact absurd rfl enabled.1
    | cons r rest =>
      have grown : (⟨world.shared, world.items ++ [⟨r, .arrived⟩]⟩ : World σ τ).rank = world.rank + 11 :=
        World.rank_append world.shared world.items [⟨r, .arrived⟩]
      simp only [next, left, List.tail_cons, List.take_succ_cons, List.take_zero, List.map_singleton, List.length_cons]
      omega
  | move n =>
    have less := World.rank_move_lt (p := p) (show t.world.isFinished n = false from enabled)
    simp only [next, left]
    omega
  | close =>
    obtain ⟨_, _, still⟩ := enabled
    simp [next, left, still]

theorem Reached.length_le {origin : Pool σ τ} {events : List Event} (reached : Reached p limit origin events t) :
    events.length + t.left ≤ origin.left := by
  induction reached with
  | origin => simp
  | next reached enabled ih =>
    have less := next_left_lt (p := p) enabled
    simp only [List.length_append, List.length_singleton]
    omega

/-- While the pipeline is not closed, there is something to do. -/
theorem exists_enabled (positive : 0 < limit) (still : t.result? = none) : ∃ e, t.Enabled limit e := by
  rcases t.world.isDone_or_active with done | ⟨n, active⟩
  · by_cases dry : t.stream = []
    · exact ⟨.close, dry, done, still⟩
    · refine ⟨.take, dry, ?_⟩
      rw [unfinished, World.countP_isOpen_of_isDone done]
      exact positive
  · exact ⟨.move n, active⟩

/-- What holds of a pool that was reached by steps of the records as in `moves`. -/
structure Sound (p : Pipeline σ τ) (limit : Nat) (s : Shared σ τ) (records : List Record) (moves : List Nat)
    (t : Pool σ τ) : Prop where
  within : t.received ≤ records.length
  stream : t.stream = records.drop t.received
  world : t.world = (World.ofRecords s (records.take t.received)).run p moves
  inside : ∀ n ∈ moves, n < t.received
  once : t.entered.Nodup
  entered : ∀ r n, (r, n) ∈ t.entered ↔ records[n]? = some r ∧ n ∈ moves
  room : t.unfinished ≤ limit
  closed : t.result? ≠ none → t.stream = [] ∧ t.world.isDone = true ∧
    t.result? = some (⟨t.received, t.world.shared.counters⟩,
      t.world.shared.note [closingNote p t.world.shared.counters])

namespace Sound

theorem start (p : Pipeline σ τ) (limit : Nat) (concurrency : Nat) (s : Shared σ τ) (records : List Record) :
    let t := Pool.start p concurrency s records
    Sound p limit t.world.shared records [] t where
  within := Nat.zero_le _
  stream := rfl
  world := rfl
  inside := List.forall_mem_nil _
  once := List.nodup_nil
  entered r n := by simp [Pool.start]
  room := Nat.zero_le _
  closed still := absurd rfl still

theorem length (sound : Sound p limit s records moves t) : t.world.items.length = t.received := by
  rw [sound.world, World.run_length, World.ofRecords, List.length_map, List.length_take]
  exact Nat.min_eq_left sound.within

theorem stream_ne_nil (sound : Sound p limit s records moves t) : t.stream ≠ [] ↔ t.received < records.length := by
  rw [sound.stream, Ne, List.drop_eq_nil_iff, Nat.not_le]

/-- Nothing happens after the pipeline was closed. -/
theorem result?_of_enabled (sound : Sound p limit s records moves t) (enabled : t.Enabled limit e) :
    t.result? = none := by
  by_contra closed
  obtain ⟨dry, done, _⟩ := sound.closed closed
  cases e with
  | take => exact enabled.1 dry
  | move n => exact Bool.false_ne_true (enabled.symm.trans (World.isFinished_of_isDone done n))
  | close => exact closed enabled.2.2

theorem entering (sound : Sound p limit s records moves t) {n : Nat} {r : Record} (given : records[n]? = some r)
    (inside : n < t.received) : t.entering n = if n ∈ moves then [] else [(r, n)] := by
  have given : (records.take t.received)[n]? = some r := by rw [List.getElem?_take, if_pos inside, given]
  unfold Pool.entering
  rw [sound.world]
  split_ifs with begun
  · obtain ⟨⟨x, stage⟩, found⟩ := World.run_present p s moves given
    have begun := mt (World.run_arrived found).1 (not_not_intro begun)
    rw [found]
    cases stage with
    | arrived => exact absurd rfl begun
    | _ => rfl
  · rw [World.run_untouched p s given begun]

theorem once_append (sound : Sound p limit s records moves t) {n : Nat} {r : Record} (given : records[n]? = some r)
    (inside : n < t.received) : (t.entered ++ t.entering n).Nodup := by
  rw [sound.entering given inside]
  split_ifs with begun
  · rw [List.append_nil]
    exact sound.once
  · rw [List.nodup_append]
    refine ⟨sound.once, by simp, ?_⟩
    rintro ⟨x, m⟩ member _ single rfl
    obtain ⟨_, rfl⟩ := Prod.mk.inj (List.mem_singleton.1 single)
    exact begun ((sound.entered x m).1 member).2

theorem entered_append (sound : Sound p limit s records moves t) {n : Nat} {r : Record} (given : records[n]? = some r)
    (inside : n < t.received) (x : Record) (m : Nat) :
    (x, m) ∈ t.entered ++ t.entering n ↔ records[m]? = some x ∧ m ∈ moves ++ [n] := by
  rw [sound.entering given inside, List.mem_append, sound.entered, List.mem_append, List.mem_singleton, and_or_left]
  split_ifs with begun
  · constructor
    · rintro (old | new)
      · exact .inl old
      · cases new
    · rintro (old | ⟨origin, rfl⟩)
      · exact .inl old
      · exact .inl ⟨origin, begun⟩
  · rw [List.mem_singleton, Prod.mk.injEq]
    refine or_congr_right ⟨?_, ?_⟩
    · rintro ⟨rfl, rfl⟩
      exact ⟨given, rfl⟩
    · rintro ⟨origin, rfl⟩
      exact ⟨Option.some.inj (origin.symm.trans given), rfl⟩

theorem present (sound : Sound p limit s records moves t) :
    ∀ n ∈ moves, n < (World.ofRecords s (records.take t.received)).items.length := by
  rw [← World.run_length p _ moves, ← sound.world, sound.length]
  exact sound.inside

/-- The pool is what the same steps make of all records, but for those that are still to come. -/
theorem whole (sound : Sound p limit s records moves t) : (World.ofRecords s records).run p moves =
    ⟨t.world.shared, t.world.items ++ t.stream.map (⟨·, .arrived⟩)⟩ := by
  have parts := World.ofRecords_append s (records.take t.received) (records.drop t.received)
  rw [List.take_append_drop, ← sound.stream] at parts
  rw [parts, sound.world]
  exact World.run_append_items sound.present _

theorem take (sound : Sound p limit s records moves t) (enabled : t.Enabled limit .take) :
    Sound p limit s records moves (t.next p .take) := by
  obtain ⟨more, free⟩ := enabled
  have inside := sound.stream_ne_nil.1 more
  have head : t.stream.take 1 = [records[t.received]] := by
    rw [sound.stream, List.drop_eq_getElem_cons inside, List.take_succ_cons, List.take_zero]
  refine ⟨inside, ?_, ?_, fun n member => Nat.lt_succ_of_lt (sound.inside n member), sound.once, sound.entered, ?_, ?_⟩
  · simp only [next, sound.stream, List.tail_drop]
  · simp only [next, head]
    rw [List.take_add_one, List.getElem?_eq_getElem inside, Option.toList_some, World.ofRecords_append]
    exact (sound.world ▸ World.run_append_items sound.present _).symm
  · simp only [unfinished, next, head, List.map_singleton, List.countP_append] at free ⊢
    have single : [(⟨records[t.received], .arrived⟩ : Item)].countP Item.isOpen = 1 := rfl
    omega
  · intro closed
    exact absurd (sound.closed closed).1 more

theorem move (sound : Sound p limit s records moves t) {n : Nat} (active : t.Enabled limit (.move n)) :
    Sound p limit s records (moves ++ [n]) (t.next p (.move n)) := by
  have inside : n < t.received := by
    obtain ⟨i, found, _⟩ := World.isFinished_eq_false.1 active
    rw [← sound.length]
    exact (List.getElem?_eq_some_iff.1 found).1
  have given := List.getElem?_eq_getElem (Nat.lt_of_lt_of_le inside sound.within)
  refine ⟨sound.within, sound.stream, ?_, ?_, ?_, ?_, ?_, ?_⟩
  · simp only [Pool.next, World.run_concat, ← sound.world]
  · intro m member
    rcases List.mem_append.1 member with before | now
    · exact sound.inside m before
    · exact List.mem_singleton.1 now ▸ inside
  · exact sound.once_append given inside
  · exact sound.entered_append given inside
  · exact Nat.le_trans (World.countP_isOpen_move_le active) sound.room
  · intro closed
    exact absurd (sound.result?_of_enabled active) closed

theorem close (sound : Sound p limit s records moves t) (enabled : t.Enabled limit .close) :
    Sound p limit s records moves (t.next p .close) :=
  ⟨sound.within, sound.stream, sound.world, sound.inside, sound.once, sound.entered, sound.room,
    fun _ => ⟨enabled.1, enabled.2.1, rfl⟩⟩

theorem next (sound : Sound p limit s records moves t) (enabled : t.Enabled limit e) :
    Sound p limit s records (moves ++ e.moved?.toList) (t.next p e) := by
  cases e with
  | take => simpa [Event.moved?] using sound.take enabled
  | move n => exact sound.move enabled
  | close => simpa [Event.moved?] using sound.close enabled

end Sound

namespace Reached

variable {concurrency : Nat} {events : List Event}

theorem sound (reached : Reached p limit (start p concurrency s records) events t) :
    Sound p limit (start p concurrency s records).world.shared records (movesOf events) t := by
  induction reached with
  | origin => exact .start p limit concurrency s records
  | next reached enabled ih =>
    rw [movesOf_concat]
    exact ih.next enabled

theorem close_last (reached : Reached p limit (start p concurrency s records) events t) :
    t.result? = none ∧ .close ∉ events ∨
      t.result? ≠ none ∧ ∃ before, events = before ++ [.close] ∧ .close ∉ before := by
  induction reached with
  | origin => exact .inl ⟨rfl, List.not_mem_nil⟩
  | @next events t e reached enabled ih =>
    have still := reached.sound.result?_of_enabled enabled
    obtain ⟨_, never⟩ := ih.resolve_right fun closed => closed.1 still
    cases e with
    | take | move n => exact .inl ⟨still, by simp [never]⟩
    | close => exact .inr ⟨Option.some_ne_none _, events, rfl, never⟩

theorem events_length (reached : Reached p limit (start p concurrency s records) events t) :
    events.length ≤ 12 * records.length + 1 := by
  have bound := reached.length_le
  simp only [left, start, World.rank, List.foldr_nil, Option.elim_none] at bound
  omega

/-- While there is room, the next record can be taken and take its first step. -/
theorem enter (reached : Reached p limit (start p concurrency s records) events t)
    (inside : t.received < records.length) (room : t.unfinished < limit) :
    Reached p limit (start p concurrency s records) (events ++ [.take] ++ [.move t.received])
      ((t.next p .take).next p (.move t.received)) := by
  have sound := reached.sound
  have more := sound.stream_ne_nil.2 inside
  have taken := sound.take ⟨more, room⟩
  refine (reached.next (e := .take) ⟨more, room⟩).next (e := .move t.received) ?_
  have given : (records.take (t.received + 1))[t.received]? = some records[t.received] := by
    rw [List.getElem?_take, if_pos (Nat.lt_succ_self _), List.getElem?_eq_getElem inside]
  have idle : t.received ∉ movesOf events := fun member => Nat.lt_irrefl _ (sound.inside _ member)
  rw [Enabled, taken.world]
  exact World.isFinished_of_idle p _ given idle

end Reached

/-- A run that has come as far as the steps of a list, of which it left out those of records that had ended. -/
structure Abreast (p : Pipeline σ τ) (limit concurrency : Nat) (s : Shared σ τ) (records : List Record)
    (moves : List Nat) (events : List Event) (t : Pool σ τ) : Prop where
  reached : Reached p limit (start p concurrency s records) events t
  still : t.result? = none
  begun : ∀ n, n ∈ moves ↔ n < t.received
  same : (World.ofRecords (start p concurrency s records).world.shared records).run p moves =
    (World.ofRecords (start p concurrency s records).world.shared records).run p (movesOf events)

namespace Abreast

variable {concurrency n : Nat} {events : List Event}

theorem again (a : Abreast p limit concurrency s records moves events t) (begun : n ∈ moves) :
    ∃ events' t', Abreast p limit concurrency s records (moves ++ [n]) events' t' := by
  have inside := (a.begun n).1 begun
  have begun' (m : Nat) : m ∈ moves ++ [n] ↔ m < t.received := by
    rw [List.mem_append, List.mem_singleton, a.begun]
    exact ⟨fun either => either.elim id fun last => last ▸ inside, .inl⟩
  cases active : t.world.isFinished n with
  | false =>
    refine ⟨_, _, a.reached.next (e := .move n) active, a.still, begun', ?_⟩
    rw [movesOf_move, World.run_concat, World.run_concat, a.same]
  | true =>
    refine ⟨events, t, a.reached, a.still, begun', ?_⟩
    rw [World.run_concat, a.same]
    apply World.move_eq_self
    intro i found
    rw [a.reached.sound.whole] at found
    dsimp only at found
    rw [List.getElem?_append_left (a.reached.sound.length.symm ▸ inside)] at found
    rw [World.isFinished_of_item found] at active
    exact Option.isSome_iff_ne_none.1 active

/-- A record is taken just before its first step. -/
theorem enter (a : Abreast p limit concurrency s records moves events t) (first : n ∉ moves)
    (d : Disciplined p limit (.ofRecords (start p concurrency s records).world.shared records) (moves ++ [n])) :
    ∃ events' t', Abreast p limit concurrency s records (moves ++ [n]) events' t' := by
  obtain rfl : n = t.received := by
    have earlier (m : Nat) : m < t.received ↔ m < n := (a.begun m).symm.trans (d.inOrder.lt_iff_mem first m)
    exact Nat.le_antisymm (Nat.le_of_not_lt fun less => Nat.lt_irrefl _ ((earlier _).2 less))
      (Nat.le_of_not_lt fun less => Nat.lt_irrefl _ ((earlier _).1 less))
  have inside : t.received < records.length := by
    simpa [World.ofRecords] using d.inside t.received (by simp)
  have room := d.bounded moves t.received [] rfl first
  rw [a.same, a.reached.sound.whole, ← a.reached.sound.length, List.take_left] at room
  refine ⟨_, _, a.reached.enter inside room, a.still, ?_, ?_⟩
  · intro m
    rw [List.mem_append, List.mem_singleton, a.begun]
    exact Nat.lt_succ_iff_lt_or_eq.symm
  · rw [movesOf_move, movesOf_take, World.run_concat, World.run_concat, a.same]

theorem of_disciplined
    (d : Disciplined p limit (.ofRecords (start p concurrency s records).world.shared records) moves) :
    ∃ events t, Abreast p limit concurrency s records moves events t := by
  induction moves using List.reverseRecOn with
  | nil => exact ⟨[], _, .origin, rfl, fun n => by simp [start], rfl⟩
  | append_singleton before n ih =>
    obtain ⟨events, t, a⟩ := ih d.init
    by_cases begun : n ∈ before
    · exact a.again begun
    · exact a.enter begun d

theorem close (a : Abreast p limit concurrency s records moves events t) :
    let w := (World.ofRecords (start p concurrency s records).world.shared records).run p moves
    w.isDone = true → ∃ events' t', Reached p limit (start p concurrency s records) events' t' ∧
      t'.result? = some (⟨records.length, w.shared.counters⟩, w.shared.note [closingNote p w.shared.counters]) := by
  intro w done
  have sound := a.reached.sound
  have all : records.length ≤ t.received :=
    Nat.le_of_not_lt fun inside => Nat.lt_irrefl _ ((a.begun _).1 (World.mem_of_isDone done inside))
  have dry : t.stream = [] := by rw [sound.stream, List.drop_eq_nil_of_le all]
  have world : w = t.world := by
    have whole := a.same.trans sound.whole
    rwa [dry, List.map_nil, List.append_nil] at whole
  refine ⟨_, _, a.reached.next (e := .close) ⟨dry, world ▸ done, a.still⟩, ?_⟩
  simp only [Pool.next, world, Nat.le_antisymm sound.within all]

end Abreast

/-- What a run tells after it has closed the pipeline as the last thing it did: each record went through the pipeline
once, and the summary counts them all and those that failed. -/
structure Complete (records : List Record) (events : List Event) (t : Pool σ τ) (summary : Summary) : Prop where
  last : ∃ before, events = before ++ [.close] ∧ .close ∉ before
  done : t.world.isDone = true
  entered : t.entered.Perm records.zipIdx
  outcomes : t.world.outcomes.length = records.length
  received : summary.received = records.length
  processed : summary.counters.processed = records.length
  errors : summary.counters.errors = t.world.outcomes.countP Outcome.isFailed

theorem Reached.complete {concurrency : Nat} {events : List Event} (fresh : s.counters = {})
    (reached : Reached p limit (start p concurrency s records) events t) {summary : Summary} {s' : Shared σ τ}
    (returned : t.result? = some (summary, s')) : Complete records events t summary := by
  have sound := reached.sound
  have closed : t.result? ≠ none := returned ▸ Option.some_ne_none _
  obtain ⟨dry, done, same⟩ := sound.closed closed
  obtain ⟨rfl, rfl⟩ := Prod.mk.inj (Option.some.inj (returned.symm.trans same))
  have all : t.received = records.length :=
    Nat.le_antisymm sound.within (Nat.le_of_not_lt fun inside => sound.stream_ne_nil.2 inside dry)
  have outcomes : t.world.outcomes.length = records.length := by
    rw [World.length_outcomes done, sound.length, all]
  have counted := World.run_counted p (start p concurrency s records).world.shared (records.take t.received)
    (movesOf events)
  rw [← sound.world] at counted
  have initial : (start p concurrency s records).world.shared.counters = {} := fresh
  rw [initial] at counted
  refine ⟨(reached.close_last.resolve_left fun still => closed still.1).2, done, ?_, outcomes, all, ?_, ?_⟩
  · rw [List.perm_ext_iff_of_nodup sound.once ?_]
    · rintro ⟨r, n⟩
      rw [sound.entered, List.mem_zipIdx_iff_getElem?]
      refine and_iff_left_of_imp fun given => World.mem_of_isDone (sound.world ▸ done) ?_
      rw [all, List.take_length]
      exact (List.getElem?_eq_some_iff.1 given).1
    · exact .of_map Prod.snd (List.nodup_zipIdx_map_snd records)
  · exact counted.processed.trans ((Nat.zero_add _).trans outcomes)
  · exact counted.errors.trans (Nat.zero_add _)

end Pool

/-- Whatever the concurrency, the schedule and the failures: a run has at most so many records under way, takes each
into the pipeline once, and comes to its end after a bounded number of events, with all records counted. The runs of
`runAll` are among these. -/
theorem run_handles_each_record_once (p : Pipeline σ τ) (concurrency : Nat) (s : Shared σ τ)
    (fresh : s.counters = {}) (records : List Record) :
    let q := { p with report := failureNotes }
    let limit := max 1 concurrency
    let origin := Pool.start q concurrency s records
    (∀ events t, Pool.Reached q limit origin events t →
      t.unfinished ≤ limit ∧ t.entered.Nodup ∧ (∀ r n, (r, n) ∈ t.entered → records[n]? = some r) ∧
      events.length ≤ 12 * records.length + 1 ∧
      (t.result? = none → .close ∉ events ∧ ∃ e, t.Enabled limit e) ∧
      ∀ summary s', t.result? = some (summary, s') → t.Complete records events summary) ∧
    ∃ events t, Pool.Reached q limit origin events t ∧
      t.result? = some ((runAll p concurrency s records).1, (runAll p concurrency s records).2.1) := by
  intro q limit origin
  have positive : 0 < limit := Nat.lt_of_lt_of_le Nat.zero_lt_one (Nat.le_max_left 1 concurrency)
  constructor
  · intro events t reached
    have sound := reached.sound
    refine ⟨sound.room, sound.once, fun r n member => ((sound.entered r n).1 member).1, reached.events_length, ?_, ?_⟩
    · intro still
      exact ⟨(reached.close_last.resolve_right fun closed => closed.1 still).2, Pool.exists_enabled positive still⟩
    · intro summary s' returned
      exact reached.complete fresh returned
  · obtain ⟨moves, world, disciplined, done⟩ := runBounded_spec q positive origin.world.shared records
    obtain ⟨_, _, abreast⟩ := Pool.Abreast.of_disciplined disciplined
    obtain ⟨events, t, reached, returned⟩ := abreast.close done
    refine ⟨events, t, reached, ?_⟩
    rw [returned, ← world]
    rfl

/-- With a concurrency of none: the first record cannot be saved, the second one cannot be looked up, and the third one
is stored. -/
theorem run_handles_each_record_once_with_faults :
    let p := trial ⟨[1], [2]⟩ true none
    let q := { p with report := failureNotes }
    let records : List Record := [⟨"a", "", "u", none, none, none, []⟩, ⟨"b", "", "v", none, none, none, []⟩,
      ⟨"c", "", "w", none, none, none, []⟩]
    let summary := (runAll p 0 trialStart records).1
    trialStart.counters = {} ∧ summary = ⟨3, ⟨3, 1, 0, 0, 2⟩⟩ ∧
      ∃ events t, Pool.Reached q 1 (Pool.start q 0 trialStart records) events t ∧
        t.unfinished ≤ 1 ∧ t.Complete records events summary := by
  intro p q records summary
  have values : summary = ⟨3, ⟨3, 1, 0, 0, 2⟩⟩ := by decide +kernel
  obtain ⟨all, events, t, reached, returned⟩ := run_handles_each_record_once p 0 trialStart rfl records
  obtain ⟨room, _, _, _, _, complete⟩ := all events t reached
  exact ⟨rfl, values, events, t, reached, room, complete _ _ returned⟩

end Harvest.Pipeline
