import Harvest.Proofs.Pipeline.Agreement
import Harvest.Proofs.Translation.Packing

/-!
Both fields in one call. With a translator that changes nothing, a record gets its own title and content back,
in one call or in two, unless the packed text is misread.
-/

namespace Harvest.Pipeline

open Translation (Answer Call Misread)

variable {σ τ : Type} {p : Pipeline σ τ} {plan : Plan}

def echoed (call : Call) : Answer := .ok (some call.text)

def inMode (p : Pipeline σ τ) (plan : Plan) (mode : Settings.Mode) : Pipeline σ τ :=
  { p with plan := some { plan with mode := mode } }

def Unchanged (r x : Record) : Prop := x.titleZh = some r.title ∧ x.contentZh = some r.content

theorem Plan.field_echoed (plan : Plan) (text : String) : plan.field echoed text = some text := by
  unfold Plan.field
  split
  · rename_i empty
    rw [empty]
  · rfl

theorem Plan.separately_echoed (plan : Plan) (r : Record) : Unchanged r (plan.separately echoed r) :=
  ⟨plan.field_echoed r.title, plan.field_echoed r.content⟩

/-- A packed text that comes back as it was sent. -/
theorem Plan.unpacked_echoed (plan : Plan) (nonempty : plan.delimiter ≠ "") (r : Record) :
    Unchanged r (plan.unpacked echoed r (echoed ⟨Translation.pack r.title r.content plan.delimiter, plan.target⟩)) ↔
      ¬Misread r.title plan.delimiter r.content := by
  simp only [Plan.unpacked, echoed, heard]
  rcases Translation.fields?_pack r.title r.content nonempty with
    ⟨misread, first, second, other, fields⟩ | ⟨right, ambiguous | fields⟩
  · rw [fields]
    refine iff_of_false ?_ (not_not_intro misread)
    exact fun same => other (Option.some.inj same.1)
  · rw [ambiguous]
    exact iff_of_true (plan.separately_echoed r) right
  · rw [fields]
    exact iff_of_true ⟨rfl, rfl⟩ right

theorem product_separate (p : Pipeline σ τ) (plan : Plan) (r : Record) :
    Unchanged r (product (p.inMode plan .separate) echoed r) :=
  Plan.separately_echoed { plan with mode := .separate } (r.stamp p.taskId)

theorem product_packed (p : Pipeline σ τ) (nonempty : plan.delimiter ≠ "") (r : Record) :
    Unchanged r (product (p.inMode plan .packed) echoed r) ↔ ¬Misread r.title plan.delimiter r.content :=
  Plan.unpacked_echoed { plan with mode := .packed } nonempty (r.stamp p.taskId)

theorem World.kept_eq_product {f : Call → Answer} (answers : p.translator.Answers f) {s : Shared σ τ}
    {records : List Record} {moves : List Nat} {n : Nat} {r x : Record} (given : records[n]? = some r)
    (kept : ((ofRecords s records).run p moves).outcome? n = some (.ok (some x))) : x = product p f r := by
  obtain ⟨y, found⟩ := outcome?_eq_some.1 kept
  obtain ⟨r', given', faithful⟩ := run_faithful answers found
  obtain rfl := Option.some.inj (given.symm.trans given')
  exact faithful.2

/-- With a translator that changes nothing, the packed mode agrees with the separate one on a record just where
its packed text is not misread. In separate mode every record that is kept is unchanged, and in packed mode
just those that are not misread, whatever happens to other records and in the store; a record with a URL that
is not a duplicate is kept in both modes. -/
theorem packed_agrees_iff_not_misread (nonempty : plan.delimiter ≠ "")
    (echo : p.translator.Answers echoed) :
    let packed := p.inMode plan .packed
    let separate := p.inMode plan .separate
    (∀ s records moves n r x, records[n]? = some r →
      ((World.ofRecords s records).run packed moves).outcome? n = some (.ok (some x)) →
      (Unchanged r x ↔ ¬Misread r.title plan.delimiter r.content)) ∧
    (∀ s records moves n r x, records[n]? = some r →
      ((World.ofRecords s records).run separate moves).outcome? n = some (.ok (some x)) → Unchanged r x) ∧
    ∀ contents sound, p.store.Lawful contents → p.store.Reliable sound → ∀ s, sound s.store → s.inFlight = [] →
      ∀ r, r.hasBlankUrl = false → (p.dropDuplicates = true → r.url ∉ Store.urls (contents s.store)) →
      ∃ x y, ((World.ofRecords s [r]).inTurn packed).outcome? 0 = some (.ok (some x)) ∧
        ((World.ofRecords s [r]).inTurn separate).outcome? 0 = some (.ok (some y)) ∧
        (x.titleZh = y.titleZh ∧ x.contentZh = y.contentZh ↔ ¬Misread r.title plan.delimiter r.content) := by
  intro packed separate
  refine ⟨?_, ?_, ?_⟩
  · intro s records moves n r x given kept
    rw [World.kept_eq_product (p := packed) echo given kept]
    exact product_packed p nonempty r
  · intro s records moves n r x given kept
    rw [World.kept_eq_product (p := separate) echo given kept]
    exact product_separate p plan r
  · intro contents sound law reliable s holds free r named fresh
    have alone (mode : Settings.Mode) :=
      World.inTurn_single (p := p.inMode plan mode) law reliable holds echo free named fresh
    refine ⟨_, _, alone .packed, alone .separate, ?_⟩
    obtain ⟨title, content⟩ := product_separate p plan r
    rw [title, content]
    exact product_packed p nonempty r

/-- With the delimiter `|`, a record keeps its title and content in both modes. -/
theorem packed_agrees_with_plain_title :
    let p := trial ⟨[], []⟩ true none
    let plan : Plan := ⟨"zh", 0, .packed, "|"⟩
    let r : Record := ⟨"a", "b", "u", none, none, none, []⟩
    plan.delimiter ≠ "" ∧ p.translator.Answers echoed ∧ r.hasBlankUrl = false ∧
      ∃ x y, ((World.ofRecords trialStart [r]).inTurn (p.inMode plan .packed)).outcome? 0 = some (.ok (some x)) ∧
        ((World.ofRecords trialStart [r]).inTurn (p.inMode plan .separate)).outcome? 0 = some (.ok (some y)) ∧
        x.titleZh = y.titleZh ∧ x.contentZh = y.contentZh := by
  intro p plan r
  have nonempty : plan.delimiter ≠ "" := by decide
  have echo : p.translator.Answers echoed := fun _ _ => rfl
  have law := Store.Faults.lawful ⟨[], []⟩ Store.Memory.lawful
  have reliable := Store.Faults.reliable Store.Memory.reliable
  have named : r.hasBlankUrl = false := by decide
  obtain ⟨_, _, alone⟩ := packed_agrees_iff_not_misread nonempty echo
  obtain ⟨x, y, packed, separate, same⟩ := alone _ _ law reliable trialStart True.intro rfl r named (by decide)
  have right : ¬Misread r.title plan.delimiter r.content := by decide
  exact ⟨nonempty, echo, named, x, y, packed, separate, same.2 right⟩

/-- With the delimiter `||`, a title that ends in `|` loses it to the content in packed mode. -/
theorem packed_misreads_title_end :
    let p := trial ⟨[], []⟩ true none
    let plan : Plan := ⟨"zh", 0, .packed, "||"⟩
    let r : Record := ⟨"a|", "b", "u", none, none, none, []⟩
    plan.delimiter ≠ "" ∧ p.translator.Answers echoed ∧ r.hasBlankUrl = false ∧
      ∃ x, ((World.ofRecords trialStart [r]).inTurn (p.inMode plan .packed)).outcome? 0 = some (.ok (some x)) ∧
        x.titleZh = some "a" ∧ x.contentZh = some "|b" := by
  intro p plan r
  have echo : p.translator.Answers echoed := fun _ _ => rfl
  have law := Store.Faults.lawful ⟨[], []⟩ Store.Memory.lawful
  have reliable := Store.Faults.reliable Store.Memory.reliable
  have named : r.hasBlankUrl = false := by decide
  have two : Text.pieces plan.delimiter.toList (Translation.pack r.title r.content plan.delimiter).toList =
      [['a'], ['|', 'b']] := by
    rw [Text.pieces_of_cut (by decide) (show _ = some (['a'], ['|', 'b']) by decide),
      Text.pieces_of_absent (by decide) (by decide)]
  have fields : (Translation.Unpacked.ofTranslation (r.stamp p.taskId).title plan.delimiter
      (Translation.pack r.title r.content plan.delimiter)).fields? = some ("a", "|b") :=
    Translation.fields?_of_two r.title two
  have misread : product (p.inMode plan .packed) echoed r =
      { r.stamp p.taskId with titleZh := some "a", contentZh := some "|b" } := by
    change plan.unpacked echoed (r.stamp p.taskId)
      (echoed ⟨Translation.pack r.title r.content plan.delimiter, plan.target⟩) = _
    simp only [Plan.unpacked, echoed, heard]
    rw [fields]
  refine ⟨by decide, echo, named, product (p.inMode plan .packed) echoed r, ?_, ?_, ?_⟩
  · exact World.inTurn_single (p := p.inMode plan .packed) law reliable True.intro echo rfl named (by decide)
  · rw [misread]
  · rw [misread]

end Harvest.Pipeline
