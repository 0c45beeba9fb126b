import Harvest.Proofs.Pipeline.Agreement
import Harvest.Translation.Rehearsal
import Mathlib.Data.List.Forall2

/-!
Fields that a record brings along although a pipeline is to fill them in. Two runs over records that differ in such
fields alone take the same steps until an answer for both fields has nothing in it: then the fields stay as they came.
-/

namespace Harvest

/-- Records of the same page, of which one may have been through a pipeline. -/
structure Record.SamePage (r x : Record) : Prop where
  title : r.title = x.title
  content : r.content = x.content
  url : r.url = x.url
  extra : r.extra = x.extra

theorem Record.SamePage.stamp_eq {r x : Record} (page : r.SamePage x) (title : r.titleZh = x.titleZh)
    (content : r.contentZh = x.contentZh) (taskId : String) : r.stamp taskId = x.stamp taskId := by
  rw [stamp, stamp, page.title, page.content, page.url, page.extra, title, content]

namespace Pipeline

open Translation (Answer Unpacked)

variable {σ τ : Type} {p : Pipeline σ τ} {plan : Plan}

/-- Records that differ at most in fields which are filled in from the answer for a part on. -/
structure Part.Pending (part : Part) (r x : Record) : Prop extends r.SamePage x where
  taskId : r.taskId = x.taskId
  contentZh : part = .title → r.contentZh = x.contentZh

namespace Part.Pending

variable {part : Part} {r x : Record}

theorem stamp (page : r.SamePage x) (taskId : String) (first : part ≠ .title) :
    part.Pending (r.stamp taskId) (x.stamp taskId) where
  title := page.title
  content := page.content
  url := page.url
  extra := page.extra
  taskId := rfl
  contentZh last := absurd last first

theorem text (pending : part.Pending r x) (plan : Plan) : partText plan r part = partText plan x part := by
  cases part <;> simp only [partText, pending.title, pending.content]

theorem fallBack (pending : part.Pending r x) : Part.content.Pending r x :=
  ⟨pending.toSamePage, pending.taskId, nofun⟩

theorem withContent (pending : part.Pending r x) (value : Option String) :
    Part.title.Pending { r with contentZh := value } { x with contentZh := value } where
  title := pending.title
  content := pending.content
  url := pending.url
  extra := pending.extra
  taskId := pending.taskId
  contentZh _ := rfl

theorem withBoth (pending : part.Pending r x) (title content : Option String) :
    ({ r with titleZh := title, contentZh := content } : Record) =
      { x with titleZh := title, contentZh := content } := by
  rw [pending.title, pending.content, pending.url, pending.extra, pending.taskId]

theorem withTitle (pending : Part.title.Pending r x) (value : Option String) :
    ({ r with titleZh := value } : Record) = { x with titleZh := value } := by
  rw [pending.title, pending.content, pending.url, pending.extra, pending.taskId, pending.contentZh rfl]

end Part.Pending

/-- Records that have come equally far and differ at most in what is still to be filled in. -/
inductive Item.Alike : Item → Item → Prop
  | arrived {r x : Record} (page : r.SamePage x) : Alike ⟨r, .arrived⟩ ⟨x, .arrived⟩
  | looking {r x : Record} (page : r.SamePage x) : Alike ⟨r, .looking⟩ ⟨x, .looking⟩
  | looked {r x : Record} {answer : Except Harvest.Failure (Option StoredRecord)} (page : r.SamePage x) :
      Alike ⟨r, .looked answer⟩ ⟨x, .looked answer⟩
  | asking {r x : Record} {part : Part} (pending : part.Pending r x) : Alike ⟨r, .asking part⟩ ⟨x, .asking part⟩
  | asked {r x : Record} {part : Part} {answer : Answer} (pending : part.Pending r x) :
      Alike ⟨r, .asked part answer⟩ ⟨x, .asked part answer⟩
  | saving {r : Record} : Alike ⟨r, .saving⟩ ⟨r, .saving⟩
  | saved {r : Record} {answer : Except Harvest.Failure StoredRecord} : Alike ⟨r, .saved answer⟩ ⟨r, .saved answer⟩
  | finished {r x : Record} {o : Outcome} : Alike ⟨r, .finished o⟩ ⟨x, .finished o⟩

theorem Item.Alike.stage {i j : Item} (alike : i.Alike j) : i.stage = j.stage := by
  cases alike <;> rfl

/-- States with the same books, translator and identities; what was logged may differ. -/
structure Shared.Alike (s t : Shared σ τ) : Prop where
  store : s.store = t.store
  session : s.session = t.session
  claims : s.inFlight = t.inFlight
  counters : s.counters = t.counters
  minted : s.minted = t.minted

structure Step.Alike (a b : Step σ τ) : Prop where
  shared : a.shared.Alike b.shared
  item : a.item.Alike b.item

/-- Whether the answer for both fields has come and there is nothing in it. -/
def Item.isUnheard (i : Item) : Bool :=
  match i.stage with
  | .asked .both answer => (heard answer).isNone
  | _ => false

namespace Shared.Alike

variable {s t : Shared σ τ} {r x : Record} {o : Outcome} {part : Part}

theorem refl (s : Shared σ τ) : s.Alike s := ⟨rfl, rfl, rfl, rfl, rfl⟩

theorem note (m : s.Alike t) (entries entries' : List Log.Entry) : (s.note entries).Alike (t.note entries') :=
  ⟨m.store, m.session, m.claims, m.counters, m.minted⟩

theorem count (m : s.Alike t) (change : Counters → Counters) :
    Shared.Alike { s with counters := change s.counters } { t with counters := change t.counters } :=
  ⟨m.store, m.session, m.claims, congrArg change m.counters, m.minted⟩

theorem release (m : s.Alike t) (url : String) : (s.release url).Alike (t.release url) :=
  ⟨m.store, m.session, congrArg (List.filter _) m.claims, m.counters, m.minted⟩

theorem endItem (m : s.Alike t) : (endItem p s r o).Alike (endItem p t x o) :=
  ⟨(m.count (·.finish o)).note _ _, .finished⟩

theorem closeItem (m : s.Alike t) (page : r.url = x.url) : (closeItem p s r o).Alike (closeItem p t x o) := by
  unfold Pipeline.closeItem
  rw [page]
  split
  · exact (m.release x.url).endItem
  · exact m.endItem

theorem toSave (m : s.Alike t) : (toSave s r).Alike (toSave t r) := by
  unfold Pipeline.toSave
  split
  · exact ⟨m, .saving⟩
  · exact ⟨m.count Counters.untranslated, .saving⟩

theorem accept (planned : p.plan = some plan) (m : s.Alike t) (page : r.SamePage x) :
    (accept p s r).Alike (accept p t x) := by
  refine ⟨m, ?_⟩
  simp only [Pipeline.accept, planned, firstStage]
  cases plan.mode with
  | separate => exact .asking (.stamp page p.taskId (by decide))
  | packed => exact .asking (.stamp page p.taskId (by decide))

theorem arrive (planned : p.plan = some plan) (m : s.Alike t) (page : r.SamePage x) :
    (arrive p s r).Alike (arrive p t x) := by
  have blank : r.hasBlankUrl = x.hasBlankUrl := congrArg Text.isBlankText page.url
  unfold Pipeline.arrive
  rw [blank, page.title, page.url, m.claims]
  split
  · exact m.endItem
  · split
    · exact m.accept planned page
    · split
      · exact ((m.note _ _).count Counters.duplicate).endItem
      · exact ⟨⟨m.store, m.session, rfl, m.counters, m.minted⟩, .looking page⟩

theorem look (m : s.Alike t) (page : r.SamePage x) : (look p s r).Alike (look p t x) := by
  unfold Pipeline.look
  rw [page.url, m.store]
  exact ⟨⟨rfl, m.session, m.claims, m.counters, m.minted⟩, .looked page⟩

theorem judge (planned : p.plan = some plan) (m : s.Alike t) (page : r.SamePage x)
    (answer : Except Harvest.Failure (Option StoredRecord)) : (judge p s r answer).Alike (judge p t x answer) := by
  rcases answer with f | _ | existing
  · exact m.closeItem page.url
  · exact m.accept planned page
  · exact ((m.note _ _).count Counters.duplicate).closeItem page.url

theorem call (m : s.Alike t) (pending : part.Pending r x) :
    (call p plan s r part).Alike (call p plan t x part) := by
  unfold Pipeline.call
  rw [pending.text plan, m.session]
  obtain ⟨reply, session⟩ := t.session.ask p.translator ⟨partText plan x part, plan.target⟩
  have answered : Shared.Alike { s with session := session } { t with session := session } :=
    ⟨m.store, rfl, m.claims, m.counters, m.minted⟩
  exact ⟨answered.note _ _, .asked pending⟩

theorem setField (m : s.Alike t) (pending : part.Pending r x) (value : Option String) :
    (setField s r plan value part).Alike (setField t x plan value part) := by
  cases part with
  | both | content => exact ⟨m, .asking (pending.withContent value)⟩
  | title =>
    simp only [Pipeline.setField]
    rw [pending.withTitle value]
    exact m.toSave

theorem ask (m : s.Alike t) (pending : part.Pending r x) : (ask p plan s r part).Alike (ask p plan t x part) := by
  unfold Pipeline.ask
  rw [pending.text plan]
  split
  · exact m.setField pending (some "")
  · exact m.call pending

theorem hearBoth (m : s.Alike t) (pending : Part.both.Pending r x) {answer : Answer} (some_text : heard answer ≠ none) :
    (hearBoth s r plan answer).Alike (hearBoth t x plan answer) := by
  rcases answer with f | _ | text
  · exact absurd rfl some_text
  · exact absurd rfl some_text
  · have fields : (Unpacked.ofTranslation r.title plan.delimiter text).fields? =
        (Unpacked.ofTranslation x.title plan.delimiter text).fields? := by rw [pending.title]
    simp only [Pipeline.hearBoth, fields]
    split
    · rename_i title content _
      rw [pending.withBoth (some title) (some content)]
      exact (m.note _ _).toSave
    · exact ⟨(m.note _ _).note _ _, .asking pending.fallBack⟩

theorem hear (m : s.Alike t) (pending : part.Pending r x) {answer : Answer}
    (some_text : part = .both → heard answer ≠ none) :
    (hear s r plan answer part).Alike (hear t x plan answer part) := by
  cases part with
  | both => exact m.hearBoth pending (some_text rfl)
  | content | title =>
    unfold Pipeline.hear hearField
    exact (m.note _ _).setField pending _

theorem save (m : s.Alike t) : (save p s r).Alike (save p t r) := by
  unfold Pipeline.save
  rw [m.store, m.minted]
  exact ⟨⟨rfl, m.session, m.claims, m.counters, rfl⟩, .saved⟩

theorem conclude (m : s.Alike t) (answer : Except Harvest.Failure StoredRecord) :
    (conclude p s r answer).Alike (conclude p t r answer) := by
  rcases answer with f | row
  · exact m.closeItem rfl
  · exact (m.note _ _).closeItem rfl

/-- Alike records stay alike, unless there is nothing in an answer for both fields. -/
theorem step (planned : p.plan = some plan) (m : s.Alike t) {i j : Item} (items : i.Alike j)
    (some_text : i.isUnheard = false) : (step p s i).Alike (step p t j) := by
  cases items with
  | arrived page => exact m.arrive planned page
  | looking page => exact m.look page
  | looked page => exact m.judge planned page _
  | asking pending =>
    simp only [Pipeline.step, planned]
    exact m.ask pending
  | @asked r x part answer pending =>
    simp only [Pipeline.step, planned]
    refine m.hear pending ?_
    rintro rfl nothing
    exact absurd some_text (by simp [Item.isUnheard, nothing])
  | saving => exact m.save
  | saved => exact m.conclude _
  | finished => exact ⟨m, .finished⟩

end Shared.Alike

theorem forall₂_set {α β : Type} {R : α → β → Prop} {items : List α} {others : List β}
    (related : List.Forall₂ R items others) (n : Nat) {i : α} {j : β} (here : R i j) :
    List.Forall₂ R (items.set n i) (others.set n j) := by
  induction related generalizing n with
  | nil => exact .nil
  | cons first rest ih =>
    cases n with
    | zero => exact .cons here rest
    | succ n => exact .cons first (ih n)

theorem forall₂_getElem? {α β : Type} {R : α → β → Prop} {items : List α} {others : List β}
    (related : List.Forall₂ R items others) (n : Nat) :
    items[n]? = none ∧ others[n]? = none ∨ ∃ i j, items[n]? = some i ∧ others[n]? = some j ∧ R i j := by
  induction related generalizing n with
  | nil => exact .inl ⟨rfl, rfl⟩
  | @cons i j _ _ first rest ih =>
    cases n with
    | zero => exact .inr ⟨i, j, rfl, rfl, first⟩
    | succ n => exact ih n

namespace World

/-- Whether the record with index `n` gets, in a run, an answer for both fields with nothing in it. -/
def Unheard (p : Pipeline σ τ) (w : World σ τ) (moves : List Nat) (n : Nat) : Prop :=
  ∃ before i, before <+: moves ∧ (w.run p before).items[n]? = some i ∧ i.isUnheard = true

structure Alike (w v : World σ τ) : Prop where
  shared : w.shared.Alike v.shared
  items : List.Forall₂ Item.Alike w.items v.items

namespace Alike

variable {w v : World σ τ}

theorem start (s : Shared σ τ) {records others : List Record} (pages : List.Forall₂ Record.SamePage records others) :
    (ofRecords s records).Alike (ofRecords s others) := by
  refine ⟨.refl s, ?_⟩
  simp only [ofRecords, List.forall₂_map_left_iff, List.forall₂_map_right_iff]
  exact pages.imp fun r x page => .arrived page

theorem outcome? (alike : w.Alike v) (n : Nat) : w.outcome? n = v.outcome? n := by
  rcases forall₂_getElem? alike.items n with ⟨nothing, nothing'⟩ | ⟨i, j, here, there, items⟩
  · rw [World.outcome?, World.outcome?, nothing, nothing']
  · rw [outcome?_of_item here, outcome?_of_item there]
    cases items <;> rfl

theorem move (planned : p.plan = some plan) (alike : w.Alike v) (n : Nat)
    (some_text : ∀ i, w.items[n]? = some i → i.isUnheard = false) : (w.move p n).Alike (v.move p n) := by
  rcases forall₂_getElem? alike.items n with ⟨nothing, nothing'⟩ | ⟨i, j, here, there, items⟩
  · simp only [World.move, nothing, nothing']
    exact alike
  · rw [move_eq here, move_eq there]
    have next := alike.shared.step planned items (some_text i here)
    exact ⟨next.shared, forall₂_set alike.items n next.item⟩

theorem run (planned : p.plan = some plan) (alike : w.Alike v) (moves : List Nat)
    (some_text : ∀ n, ¬w.Unheard p moves n) : (w.run p moves).Alike (v.run p moves) := by
  induction moves generalizing w v with
  | nil => exact alike
  | cons n moves ih =>
    rw [run_cons, run_cons]
    apply ih
    · apply alike.move planned n
      intro i here
      have here : (w.run p []).items[n]? = some i := here
      exact Bool.eq_false_iff.2 fun unheard => some_text n ⟨[], i, List.nil_prefix, here, unheard⟩
    · rintro m ⟨before, i, early, found, unheard⟩
      exact some_text m ⟨n :: before, i, (List.prefix_cons_inj n).2 early, found, unheard⟩

end Alike

end World

/-- Whether a record has its translations, or is never to have any. -/
def Stage.isPast : Stage → Bool
  | .saving | .saved _ | .finished _ => true
  | _ => false

/-- Nothing is asked any more. -/
theorem step_past (s : Shared σ τ) {i : Item} (past : i.stage.isPast = true) :
    (step p s i).shared.session = s.session ∧ (step p s i).item.stage.isPast = true := by
  obtain ⟨r, stage⟩ := i
  cases stage with
  | saving => exact ⟨rfl, rfl⟩
  | saved answer =>
    rcases answer with f | row
    · exact ⟨closeItem_session s r _, rfl⟩
    · exact ⟨closeItem_session _ r _, rfl⟩
  | finished => exact ⟨rfl, rfl⟩
  | _ => cases past

/-- Nothing was heard, so the record goes on as it is. -/
theorem step_unheard (planned : p.plan = some plan) (s : Shared σ τ) {i : Item} (unheard : i.isUnheard = true) :
    (step p s i).shared.session = s.session ∧ (step p s i).item = ⟨i.record, .saving⟩ := by
  obtain ⟨r, stage⟩ := i
  have saving (t : Shared σ τ) : (toSave t r).item = ⟨r, .saving⟩ := rfl
  cases stage with
  | asked part answer =>
    simp only [step, planned]
    cases part with
    | both =>
      rcases answer with f | _ | text
      · exact ⟨toSave_session _ r, saving _⟩
      · exact ⟨toSave_session _ r, saving _⟩
      · cases unheard
    | content | title => cases unheard
  | _ => cases unheard

theorem Item.not_past_of_isUnheard {i : Item} (unheard : i.isUnheard = true) : i.stage.isPast = false := by
  obtain ⟨r, stage⟩ := i
  cases stage <;> first | rfl | cases unheard

theorem Item.Alike.isUnheard_eq {i j : Item} (alike : i.Alike j) : i.isUnheard = j.isUnheard := by
  rw [Item.isUnheard, Item.isUnheard, alike.stage]

namespace World

/-- Runs that may have come to different records, after the last call of either. -/
structure Parted (w v : World σ τ) : Prop where
  session : w.shared.session = v.shared.session
  first : ∀ i ∈ w.items, i.stage.isPast = true
  second : ∀ j ∈ v.items, j.stage.isPast = true

theorem move_past {w : World σ τ} (past : ∀ i ∈ w.items, i.stage.isPast = true) (n : Nat) :
    (w.move p n).shared.session = w.shared.session ∧ ∀ i ∈ (w.move p n).items, i.stage.isPast = true := by
  unfold move
  split
  · exact ⟨rfl, past⟩
  · rename_i i found
    obtain ⟨session, after⟩ := step_past (p := p) w.shared (past i (List.mem_of_getElem? found))
    refine ⟨session, ?_⟩
    intro j member
    rcases List.mem_or_eq_of_mem_set member with before | rfl
    · exact past j before
    · exact after

theorem Parted.move {w v : World σ τ} (parted : w.Parted v) (n : Nat) : (w.move p n).Parted (v.move p n) := by
  obtain ⟨session, first⟩ := move_past (p := p) parted.first n
  obtain ⟨session', second⟩ := move_past (p := p) parted.second n
  exact ⟨session.trans (parted.session.trans session'.symm), first, second⟩

/-- A record that is alone and unheard has made its last call. -/
theorem Alike.part (planned : p.plan = some plan) {s t : Shared σ τ} {i j : Item}
    (alike : World.Alike ⟨s, [i]⟩ ⟨t, [j]⟩) (unheard : i.isUnheard = true) :
    World.Parted (World.move p ⟨s, [i]⟩ 0) (World.move p ⟨t, [j]⟩ 0) := by
  have items : i.Alike j := by
    cases alike.items with
    | cons items _ => exact items
  obtain ⟨session, here⟩ := step_unheard planned s unheard
  obtain ⟨session', there⟩ := step_unheard planned t (items.isUnheard_eq ▸ unheard)
  refine ⟨?_, ?_, ?_⟩
  · exact session.trans (alike.shared.session.trans session'.symm)
  · intro k member
    rw [World.move_eq (i := i) rfl, here] at member
    rw [List.mem_singleton.1 member]
    rfl
  · intro k member
    rw [World.move_eq (i := j) rfl, there] at member
    rw [List.mem_singleton.1 member]
    rfl

/-- Two runs over one record each have the same calls all the way. -/
theorem run_alone (planned : p.plan = some plan) (s : Shared σ τ) {r x : Record} (page : r.SamePage x)
    (moves : List Nat) :
    let w := (ofRecords s [r]).run p moves
    let v := (ofRecords s [x]).run p moves
    w.Alike v ∨ w.Parted v := by
  have whole (w v : World σ τ) (one : w.items.length = 1) (state : w.Alike v ∨ w.Parted v) :
      (w.run p moves).Alike (v.run p moves) ∨ (w.run p moves).Parted (v.run p moves) := by
    induction moves generalizing w v with
    | nil => exact state
    | cons n moves ih =>
      refine ih (w.move p n) (v.move p n) ((run_length p w [n]).trans one) ?_
      rcases state with alike | parted
      · by_cases unheard : ∃ i, w.items[n]? = some i ∧ i.isUnheard = true
        · obtain ⟨i, found, unheard⟩ := unheard
          obtain ⟨t, items⟩ := w
          obtain ⟨t', items'⟩ := v
          obtain ⟨i', rfl⟩ := List.length_eq_one_iff.1 one
          obtain rfl : n = 0 := by simpa [one] using (List.getElem?_eq_some_iff.1 found).1
          obtain rfl := Option.some.inj found
          obtain ⟨j, rfl⟩ := List.length_eq_one_iff.1 (alike.items.length_eq.symm.trans one)
          exact .inr (alike.part planned unheard)
        · refine .inl (alike.move planned n fun i found => ?_)
          exact Bool.eq_false_iff.2 fun nothing => unheard ⟨i, found, nothing⟩
      · exact .inr (parted.move n)
  refine whole (ofRecords s [r]) (ofRecords s [x]) rfl (.inl (.start s (.cons page .nil)))

theorem Unheard.of_samePage (planned : p.plan = some plan) {s : Shared σ τ} {r x : Record} (page : r.SamePage x)
    {moves : List Nat} (missed : (ofRecords s [r]).Unheard p moves 0) : (ofRecords s [x]).Unheard p moves 0 := by
  obtain ⟨before, i, early, found, unheard⟩ := missed
  rcases run_alone planned s page before with alike | parted
  · rcases forall₂_getElem? alike.items 0 with ⟨nothing, _⟩ | ⟨i', j, here, there, items⟩
    · rw [found] at nothing
      cases nothing
    · obtain rfl := Option.some.inj (found.symm.trans here)
      exact ⟨before, j, early, there, items.isUnheard_eq ▸ unheard⟩
  · have past := parted.first i (List.mem_of_getElem? found)
    rw [Item.not_past_of_isUnheard unheard] at past
    cases past

end World

/-- What is true of a record that arrived as `r` until a translation changes it. -/
def Item.Fresh (taskId : String) (r : Record) (i : Item) : Prop :=
  match i.stage with
  | .arrived | .looking | .looked _ => i.record = r
  | .asking .both | .asked .both _ => i.record = r.stamp taskId
  | _ => True

theorem Item.fresh_stamp (taskId : String) (r : Record) : ∀ stage, stage = .saving ∨ stage.isTranslating = true →
    (⟨r.stamp taskId, stage⟩ : Item).Fresh taskId r := by
  rintro stage (rfl | translating)
  · exact True.intro
  · cases stage with
    | asking part | asked part _ => cases part <;> first | rfl | exact True.intro
    | _ => cases translating

theorem Effect.stamped {b b' : Books σ} {i i' : Item} {r : Record} (effect : Effect p b i b' i')
    (fresh : i.Fresh p.taskId r) : i'.Fresh p.taskId r := by
  have first : (⟨r.stamp p.taskId, firstStage p.plan⟩ : Item).Fresh p.taskId r :=
    firstStage_elim (fun stage => (⟨r.stamp p.taskId, stage⟩ : Item).Fresh p.taskId r)
      (Item.fresh_stamp p.taskId r .saving (.inl rfl))
      (fun stage translating => Item.fresh_stamp p.taskId r stage (.inr translating)) p.plan
  cases effect with
  | enter | fresh =>
    obtain rfl := fresh
    exact first
  | claim | look => exact fresh
  | @work plan i i' planned work =>
    cases work with
    | @send r' part memory worth => cases part <;> exact fresh
    | _ => exact True.intro
  | _ => exact True.intro

/-- How a record goes on for which nothing was heard, and by how much it has raised the counter. -/
inductive Item.Left (r : Record) : Item → Nat → Prop
  | unheard {answer : Answer} (nothing : heard answer = none) : Left r ⟨r, .asked .both answer⟩ 0
  | saving : Left r ⟨r, .saving⟩ (!r.isTranslated).toNat
  | saved {answer : Except Harvest.Failure StoredRecord} : Left r ⟨r, .saved answer⟩ (!r.isTranslated).toNat
  | finished {x : Record} {o : Outcome} (kept : ∀ y, o = .ok (some y) → y = r) :
      Left r ⟨x, .finished o⟩ (!r.isTranslated).toNat

theorem Item.left_of_isUnheard {i : Item} (unheard : i.isUnheard = true) : Item.Left i.record i 0 := by
  obtain ⟨r, stage⟩ := i
  cases stage with
  | asked part answer =>
    cases part with
    | both => exact .unheard (Option.isNone_iff_eq_none.1 unheard)
    | content | title => cases unheard
  | _ => cases unheard

theorem Effect.left (planned : p.plan = some plan) {b b' : Books σ} {i i' : Item} {r : Record} {k : Nat}
    (left : i.Left r k) (unfinished : i.outcome? = none) (effect : Effect p b i b' i') :
    ∃ k', i'.Left r k' ∧ b'.counters.translationFailures + k = b.counters.translationFailures + k' := by
  cases left with
  | unheard nothing =>
    cases effect with
    | work _ work =>
      cases work
      cases nothing
    | ready _ ready =>
      cases ready with
      | split => cases nothing
      | unheard =>
        refine ⟨_, .saving, ?_⟩
        cases r.isTranslated <;> simp [Counters.untranslated]
    | unplanned plain =>
      rw [plain] at planned
      cases planned
  | saving =>
    generalize at_save : (⟨r, .saving⟩ : Item) = i at effect
    cases effect with
    | save =>
      cases at_save
      exact ⟨_, .saved, rfl⟩
    | work _ work => cases work <;> cases at_save
    | ready _ ready => cases ready <;> cases at_save
    | unplanned _ asked =>
      subst at_save
      cases asked
    | _ => cases at_save
  | saved =>
    cases effect with
    | saveFailed => exact ⟨_, .finished nofun, rfl⟩
    | keep => exact ⟨_, .finished fun y kept => (Option.some.inj (Except.ok.inj kept)).symm, rfl⟩
    | work _ work => cases work
    | ready _ ready => cases ready
    | unplanned _ asked => cases asked
  | finished => cases unfinished

/-- A record that is not through with its translation has not raised the counter. -/
theorem Effect.early {b b' : Books σ} {i i' : Item} (effect : Effect p b i b' i')
    (early : i'.stage.isPast = false) :
    i.stage.isPast = false ∧ b'.counters.translationFailures = b.counters.translationFailures := by
  cases effect with
  | enter | claim | look | fresh => exact ⟨rfl, rfl⟩
  | work _ work => cases work <;> exact ⟨rfl, rfl⟩
  | _ => cases early

/-- Whether both fields are under translation at once. -/
def Item.isPacked (i : Item) : Bool :=
  match i.stage with
  | .asking .both | .asked .both _ => true
  | _ => false

theorem Effect.separate (planned : p.plan = some plan) (separate : plan.mode = .separate) {b b' : Books σ}
    {i i' : Item} (effect : Effect p b i b' i') (single : i.isPacked = false) : i'.isPacked = false := by
  cases effect with
  | enter | fresh => simp only [planned, firstStage, separate, Item.isPacked]
  | work _ work =>
    cases work with
    | @send r part memory worth =>
      cases part with
      | both => cases single
      | content | title => rfl
    | _ => rfl
  | _ => rfl

namespace World

theorem Unheard.alone {s : Shared σ τ} {r : Record} {moves : List Nat} {n : Nat}
    (missed : (ofRecords s [r]).Unheard p moves n) : n = 0 := by
  obtain ⟨before, i, -, found, -⟩ := missed
  have inside := (List.getElem?_eq_some_iff.1 found).1
  rw [run_length] at inside
  exact Nat.lt_one_iff.1 inside

/-- What every step of a record keeps, with the books, is kept where it is the only record. -/
theorem run_single (Inv : Books σ → Item → Prop)
    (keep : ∀ {b i b' i'}, Inv b i → i.outcome? = none → Effect p b i b' i' → Inv b' i') (w : World σ τ) {i : Item}
    (single : w.items = [i]) (holds : Inv w.shared.books i) (moves : List Nat) :
    ∃ i', (w.run p moves).items = [i'] ∧ Inv (w.run p moves).shared.books i' := by
  refine run_keeps (p := p) (fun b items => ∃ i, items = [i] ∧ Inv b i) ?_ w ⟨i, single, holds⟩
  rintro b _ n i b' i' _ ⟨j, rfl, holds⟩ found unfinished effect
  obtain rfl : n = 0 := by simpa using (List.getElem?_eq_some_iff.1 found).1
  obtain rfl := Option.some.inj found
  exact ⟨i', rfl, keep holds unfinished effect⟩

/-- A record that is alone has not been counted when nothing is heard for it, and is as it was admitted. -/
theorem run_to_unheard (s : Shared σ τ) (r : Record) (moves : List Nat) {i : Item}
    (found : ((ofRecords s [r]).run p moves).items[0]? = some i) (unheard : i.isUnheard = true) :
    ((ofRecords s [r]).run p moves).items = [i] ∧ i.record = r.stamp p.taskId ∧
      ((ofRecords s [r]).run p moves).shared.counters.translationFailures = s.counters.translationFailures := by
  obtain ⟨j, single, fresh, early⟩ := run_single (p := p)
    (fun b i => i.Fresh p.taskId r ∧
      (i.stage.isPast = false → b.counters.translationFailures = s.counters.translationFailures))
    (fun ⟨fresh, count⟩ _ effect =>
      ⟨effect.stamped fresh, fun early => (effect.early early).2.trans (count (effect.early early).1)⟩)
    (ofRecords s [r]) rfl ⟨rfl, fun _ => rfl⟩ moves
  rw [single] at found
  obtain rfl := Option.some.inj found
  refine ⟨single, ?_, early (Item.not_past_of_isUnheard unheard)⟩
  obtain ⟨x, stage⟩ := j
  cases stage with
  | asked part answer => cases part <;> first | exact fresh | cases unheard
  | _ => cases unheard

/-- A record for which nothing was heard is kept as it is, and counted by its fields. -/
theorem run_from_unheard (planned : p.plan = some plan) (w : World σ τ) {i : Item} (single : w.items = [i])
    (unheard : i.isUnheard = true) (moves : List Nat) {o : Outcome} (ended : (w.run p moves).outcome? 0 = some o) :
    (w.run p moves).shared.counters.translationFailures =
        w.shared.counters.translationFailures + (!i.record.isTranslated).toNat ∧
      ∀ x, o = .ok (some x) → x = i.record := by
  obtain ⟨j, single', k, left, counted⟩ := run_single (p := p)
    (fun b j => ∃ k, j.Left i.record k ∧
      b.counters.translationFailures = w.shared.counters.translationFailures + k)
    (fun ⟨k, left, counted⟩ unfinished effect => by
      obtain ⟨k', left', raised⟩ := effect.left planned left unfinished
      exact ⟨k', left', by omega⟩)
    w single ⟨0, Item.left_of_isUnheard unheard, rfl⟩ moves
  have found : (w.run p moves).items[0]? = some j := by rw [single']; rfl
  rw [outcome?_of_item found] at ended
  cases left with
  | finished kept =>
    obtain rfl := Option.some.inj ended
    exact ⟨counted, kept⟩
  | _ => cases ended

theorem run_unheard (planned : p.plan = some plan) (s : Shared σ τ) (r : Record) {moves : List Nat}
    (missed : (ofRecords s [r]).Unheard p moves 0) {o : Outcome}
    (ended : ((ofRecords s [r]).run p moves).outcome? 0 = some o) :
    ((ofRecords s [r]).run p moves).shared.counters.translationFailures =
        s.counters.translationFailures + (!r.isTranslated).toNat ∧
      ∀ x, o = .ok (some x) → x = r.stamp p.taskId := by
  obtain ⟨before, i, ⟨after, rfl⟩, found, unheard⟩ := missed
  obtain ⟨single, stamped, uncounted⟩ := run_to_unheard s r before found unheard
  rw [run_append] at ended ⊢
  obtain ⟨counted, kept⟩ := run_from_unheard planned _ single unheard after ended
  rw [uncounted, stamped] at counted
  rw [stamped] at kept
  exact ⟨counted, kept⟩

/-- Where each field is sent on its own, there is no answer for both. -/
theorem not_unheard_of_separate (planned : p.plan = some plan) (separate : plan.mode = .separate) (s : Shared σ τ)
    (records : List Record) (moves : List Nat) (n : Nat) : ¬(ofRecords s records).Unheard p moves n := by
  rintro ⟨before, i, -, found, unheard⟩
  obtain ⟨r, -, single⟩ := run_item (fun _ i => i.isPacked = false) (fun _ => rfl)
    (fun single effect => effect.separate planned separate single) found
  obtain ⟨r, stage⟩ := i
  cases stage with
  | asked part answer =>
    cases part with
    | both => cases single
    | content | title => cases unheard
  | _ => cases unheard

end World

/-- What the fields that a record brings along decide. In runs of records of the same pages, in the same order of steps,
everything is the same where no answer for both fields has nothing in it, as it never has where each field is sent on
its own. A record by itself is the cause of the same calls in any case; if there is nothing in the answer for its two
fields, then it is kept with those that it brought along and counted as untranslated if one is absent. So the kept
record and the counter are the same just if something was heard, or the fields were. -/
theorem same_result_iff_heard_or_same_fields (planned : p.plan = some plan) (s : Shared σ τ) :
    (∀ records others moves, List.Forall₂ Record.SamePage records others →
      let w := (World.ofRecords s records).run p moves
      let v := (World.ofRecords s others).run p moves
      (∀ n, ¬(World.ofRecords s records).Unheard p moves n) →
      (∀ n, w.outcome? n = v.outcome? n) ∧ w.shared.session = v.shared.session ∧
        w.shared.store = v.shared.store ∧ w.shared.counters = v.shared.counters) ∧
    (plan.mode = .separate → ∀ records moves n, ¬(World.ofRecords s records).Unheard p moves n) ∧
    ∀ r x moves, r.SamePage x →
      let w := (World.ofRecords s [r]).run p moves
      let v := (World.ofRecords s [x]).run p moves
      let unheard := (World.ofRecords s [r]).Unheard p moves 0
      w.shared.session = v.shared.session ∧
      (unheard → ∀ o, w.outcome? 0 = some o →
        w.shared.counters.translationFailures =
          s.counters.translationFailures + (if r.isTranslated then 0 else 1) ∧
        ∀ y, o = .ok (some y) → y = r.stamp p.taskId) ∧
      ∀ y z, w.outcome? 0 = some (.ok (some y)) → v.outcome? 0 = some (.ok (some z)) →
        (y = z ∧ w.shared.counters.translationFailures = v.shared.counters.translationFailures ↔
          ¬unheard ∨ r.titleZh = x.titleZh ∧ r.contentZh = x.contentZh) := by
  have heard {records others : List Record} {moves : List Nat} (pages : List.Forall₂ Record.SamePage records others)
      (some_text : ∀ n, ¬(World.ofRecords s records).Unheard p moves n) :=
    (World.Alike.start s pages).run planned moves some_text
  refine ⟨?_, ?_, ?_⟩
  · intro records others moves pages w v some_text
    have alike := heard pages some_text
    exact ⟨alike.outcome?, alike.shared.session, alike.shared.store, alike.shared.counters⟩
  · intro separate records moves n
    exact World.not_unheard_of_separate planned separate s records moves n
  · intro r x moves page w v unheard
    have counted (r : Record) (missed : (World.ofRecords s [r]).Unheard p moves 0) {o : Outcome}
        (ended : ((World.ofRecords s [r]).run p moves).outcome? 0 = some o) :=
      World.run_unheard planned s r missed ended
    refine ⟨?_, ?_, ?_⟩
    · rcases World.run_alone planned s page moves with alike | parted
      · exact alike.shared.session
      · exact parted.session
    · intro missed o ended
      obtain ⟨failures, kept⟩ := counted r missed ended
      refine ⟨?_, kept⟩
      rw [failures]
      cases r.isTranslated <;> rfl
    · intro y z first second
      by_cases missed : unheard
      · obtain ⟨failures, kept⟩ := counted r missed first
        obtain ⟨failures', kept'⟩ := counted x (missed.of_samePage planned page) second
        obtain rfl := kept y rfl
        obtain rfl := kept' z rfl
        constructor
        · rintro ⟨same, -⟩
          have title : (r.stamp p.taskId).titleZh = (x.stamp p.taskId).titleZh := by rw [same]
          have content : (r.stamp p.taskId).contentZh = (x.stamp p.taskId).contentZh := by rw [same]
          exact .inr ⟨title, content⟩
        · rintro (heard | ⟨title, content⟩)
          · exact absurd missed heard
          · have translated : r.isTranslated = x.isTranslated := by rw [Record.isTranslated, title, content]; rfl
            exact ⟨page.stamp_eq title content p.taskId, by rw [failures, failures', translated]⟩
      · have heard_all : ∀ n, ¬(World.ofRecords s [r]).Unheard p moves n := by
          intro n missed'
          obtain rfl := missed'.alone
          exact missed missed'
        have alike := heard (.cons page .nil) heard_all
        have same := first.symm.trans ((alike.outcome? 0).trans second)
        refine iff_of_true ⟨?_, congrArg Counters.translationFailures alike.shared.counters⟩ (.inl missed)
        exact Option.some.inj (Except.ok.inj (Option.some.inj same))

/-- A translator that fails, and the fields are sent one by one: what the record brought along is gone. -/
theorem same_result_of_separate :
    let plan : Plan := ⟨"zh", 0, .separate, "|"⟩
    let p := { trial ⟨[], []⟩ true (some plan) with translator := Translation.Rehearsal.failing.translator }
    let r : Record := ⟨"a", "b", "http://x", some "old", some "A", some "B", []⟩
    let x : Record := ⟨"a", "b", "http://x", none, none, none, []⟩
    let moves := List.replicate 9 0
    let w := (World.ofRecords trialStart [r]).run p moves
    let v := (World.ofRecords trialStart [x]).run p moves
    p.plan = some plan ∧ r.SamePage x ∧ w.outcome? 0 = v.outcome? 0 ∧ w.shared.session = v.shared.session ∧
      w.shared.counters = v.shared.counters ∧ w.shared.counters = ⟨1, 1, 0, 1, 0⟩ := by
  intro plan p r x moves w v
  have page : r.SamePage x := ⟨rfl, rfl, rfl, rfl⟩
  obtain ⟨runs, separate, _⟩ := same_result_iff_heard_or_same_fields (p := p) rfl trialStart
  obtain ⟨outcomes, session, _, counters⟩ := runs [r] [x] moves (.cons page .nil) (separate rfl [r] moves)
  have values : w.shared.counters = ⟨1, 1, 0, 1, 0⟩ := by decide +kernel
  refine ⟨rfl, page, ?_⟩
  simp only [w, v] at values ⊢
  exact ⟨outcomes 0, session, counters, values⟩

/-- The same translator, and both fields are sent at once: the record keeps what it brought along, and nothing is
counted. -/
theorem result_differs_of_unheard :
    let p := { trial ⟨[], []⟩ true (some ⟨"zh", 0, .packed, "|"⟩) with
      translator := Translation.Rehearsal.failing.translator }
    let r : Record := ⟨"a", "b", "http://x", none, some "A", some "B", []⟩
    let x : Record := ⟨"a", "b", "http://x", none, none, none, []⟩
    let w := (World.ofRecords trialStart [r]).run p (List.replicate 9 0)
    let v := (World.ofRecords trialStart [x]).run p (List.replicate 9 0)
    p.plan.isSome = true ∧ r.SamePage x ∧ r.hasBlankUrl = false ∧
      ((w.outcomes.filterMap Outcome.kept?).map Record.titleZh = [some "A"] ∧
        (v.outcomes.filterMap Outcome.kept?).map Record.titleZh = [none]) ∧
      w.shared.counters.translationFailures = 0 ∧ v.shared.counters.translationFailures = 1 := by
  intro p r x w v
  have page : r.SamePage x := ⟨rfl, rfl, rfl, rfl⟩
  have kept : (w.outcomes.filterMap Outcome.kept?).map Record.titleZh = [some "A"] := by decide +kernel
  have kept' : (v.outcomes.filterMap Outcome.kept?).map Record.titleZh = [none] := by decide +kernel
  have failures : w.shared.counters.translationFailures = 0 := by decide +kernel
  have failures' : v.shared.counters.translationFailures = 1 := by decide +kernel
  exact ⟨rfl, page, by decide, ⟨kept, kept'⟩, failures, failures'⟩

end Pipeline

end Harvest
