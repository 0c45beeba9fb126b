import Harvest.Proofs.Settings.Fields
import Harvest.Settings.Environment
import Mathlib.Data.List.Induction
import Mathlib.Data.Nat.Digits.Defs

/-!
What the environment does to settings. Each variable overrides one field, if its value can be used, and no variable
minds another one. Main statement: overriding twice is overriding once, by the values that can be used, the later ones
first.
-/

namespace Harvest.Settings

/-- Whether a text writes a number in ASCII digits, after a plus sign or not. Zeros may stand in front. -/
def IsNumeral (text : String) (n : Nat) : Prop :=
  ∃ digits : List Char, (text.toList = digits ∨ text.toList = '+' :: digits) ∧ digits ≠ [] ∧
    (∀ c ∈ digits, '0' ≤ c ∧ c ≤ '9') ∧ Nat.ofDigits 10 (digits.reverse.map fun c => c.toNat - '0'.toNat) = n

theorem isDigit_iff {c : Char} : c.isDigit = true ↔ '0' ≤ c ∧ c ≤ '9' := by
  simp [Char.isDigit, Char.le_def]

theorem foldl_digits (digits : List Char) :
    digits.foldl (fun n c => n * 10 + (c.toNat - 48)) 0 =
      Nat.ofDigits 10 (digits.reverse.map fun c => c.toNat - '0'.toNat) := by
  have zero : '0'.toNat = 48 := rfl
  induction digits using List.reverseRecOn with
  | nil => rfl
  | append_singleton digits c ih =>
    rw [List.foldl_append, ih, List.reverse_append, List.reverse_singleton, List.singleton_append, List.map_cons,
      Nat.ofDigits_cons, zero, List.foldl_cons, List.foldl_nil, Nat.mul_comm, Nat.add_comm]

/-- What is left of a text without a plus sign in front. -/
def unsigned (text : String) : List Char :=
  match text.toList with
  | '+' :: rest => rest
  | cs => cs

theorem isNumeral_iff {text : String} {n : Nat} : IsNumeral text n ↔
    (unsigned text ≠ [] ∧ (unsigned text).all Char.isDigit = true) ∧
      (unsigned text).foldl (fun n c => n * 10 + (c.toNat - 48)) 0 = n := by
  simp only [IsNumeral, unsigned, List.all_eq_true, isDigit_iff, foldl_digits, and_assoc]
  split
  · rename_i rest signed
    constructor
    · rintro ⟨digits, same | same, written⟩
      · have plus := written.2.1 '+' (by rw [← same, signed]; exact List.mem_cons_self)
        exact absurd plus (by decide)
      · rw [signed, List.cons.injEq] at same
        rwa [same.2]
    · exact fun written => ⟨rest, .inr signed, written⟩
  · rename_i no_sign
    constructor
    · rintro ⟨digits, same | same, written⟩
      · rwa [same]
      · exact absurd same (no_sign digits)
    · exact fun written => ⟨_, .inl rfl, written⟩

theorem port?_eq (text : String) : port? text =
    if unsigned text ≠ [] ∧ (unsigned text).all Char.isDigit = true then
      let n := (unsigned text).foldl (fun n c => n * 10 + (c.toNat - 48)) 0
      if n < 65536 then some n.toUInt16 else none
    else none := by
  have flipped : (unsigned text ≠ [] ∧ (unsigned text).all Char.isDigit = true) ↔
      ¬((unsigned text).isEmpty = true ∨ ¬(unsigned text).all Char.isDigit = true) := by
    rw [not_or, not_not, List.isEmpty_iff]
  rw [if_congr flipped rfl rfl, ite_not]
  rfl

theorem port?_eq_some_iff {text : String} {port : UInt16} :
    port? text = some port ↔ IsNumeral text port.toNat := by
  have fits (n : Nat) : (if n < 65536 then some n.toUInt16 else none) = some port ↔ n = port.toNat := by
    constructor
    · intro read
      split at read
      · cases read
        exact (UInt16.toNat_ofNat_of_lt' ‹_›).symm
      · cases read
    · rintro rfl
      rw [if_pos port.toNat_lt]
      exact congrArg some UInt16.ofNat_toNat
  rw [isNumeral_iff, port?_eq]
  split
  · rename_i written
    rw [fits, and_iff_right written]
  · rename_i unwritten
    exact iff_of_false nofun fun numeral => unwritten numeral.1

namespace Variable

def field : Variable → Field
  | taskId => .taskId
  | host => .host
  | port => .port
  | username => .username
  | password => .password
  | authSource => .authSource
  | database => .database
  | collection => .collection
  | dataDir => .dataDir
  | appId => .appId
  | secret => .secret

theorem field_injective {v w : Variable} (same : v.field = w.field) : v = w := by
  cases v <;> cases w <;> first | rfl | cases same

theorem mem_all (v : Variable) : v ∈ all := by
  cases v <;> decide

/-- What a value means for the field of its variable. -/
def Means : (v : Variable) → String → v.field.Value → Prop
  | port, text, x => IsNumeral (Text.trim text) x.toNat
  | taskId, text, x | dataDir, text, x => x = some text
  | host, text, x | username, text, x | password, text, x | authSource, text, x | database, text, x
  | collection, text, x | appId, text, x | secret, text, x => x = text

/-- Whether a variable has a value that can be used: one that is not empty and, if it is to be a port, writes one. -/
def Usable (v : Variable) (given : Option String) : Prop :=
  ∃ text, given = some text ∧ text ≠ "" ∧ (v = port → ∃ n ≤ 65535, IsNumeral (Text.trim text) n)

/-- A value as it is taken, unless it is a port that cannot be used. -/
def value? : (v : Variable) → String → Option v.field.Value
  | port, text => port? (Text.trim text)
  | taskId, text | dataDir, text => some (some text)
  | host, text | username, text | password, text | authSource, text | database, text | collection, text
  | appId, text | secret, text => some text

variable {v : Variable} {text : String}

theorem value?_eq_some_iff {x : v.field.Value} : v.value? text = some x ↔ v.Means text x := by
  cases v with
  | port => exact port?_eq_some_iff
  | _ => exact Option.some_inj.trans eq_comm

theorem exists_value?_iff :
    (∃ x, v.value? text = some x) ↔ (v = port → ∃ n ≤ 65535, IsNumeral (Text.trim text) n) := by
  cases v with
  | port =>
    refine ⟨?_, ?_⟩
    · rintro ⟨x, read⟩ _
      exact ⟨_, Nat.le_of_lt_succ x.toNat_lt, port?_eq_some_iff.1 read⟩
    · intro written
      obtain ⟨n, small, numeral⟩ := written rfl
      have same : (UInt16.ofNat n).toNat = n := UInt16.toNat_ofNat_of_lt' (Nat.lt_succ_of_le small)
      exact ⟨.ofNat n, port?_eq_some_iff.2 (same.symm ▸ numeral)⟩
  | _ => exact iff_of_true ⟨_, rfl⟩ Variable.noConfusion

end Variable

namespace Environment

/-- What an environment has for the field of a variable. -/
def value? (e : Environment) (v : Variable) : Option v.field.Value := (e.get? v).bind v.value?

variable {e : Environment} {v : Variable}

theorem value?_eq_some_iff {x : v.field.Value} :
    e.value? v = some x ↔ ∃ text, e v.name = some text ∧ text ≠ "" ∧ v.Means text x := by
  simp only [value?, get?, Option.bind_eq_some_iff, Option.filter_eq_some_iff, decide_eq_true_eq,
    Variable.value?_eq_some_iff, and_assoc]

theorem exists_value?_iff : (∃ x, e.value? v = some x) ↔ v.Usable (e v.name) := by
  simp only [value?_eq_some_iff, Variable.Usable, ← Variable.exists_value?_iff, Variable.value?_eq_some_iff]
  constructor
  · rintro ⟨x, text, given, some_text, meant⟩
    exact ⟨text, given, some_text, x, meant⟩
  · rintro ⟨text, given, some_text, x, meant⟩
    exact ⟨x, text, given, some_text, meant⟩

theorem value?_eq_none_iff : e.value? v = none ↔ ¬v.Usable (e v.name) := by
  rw [← exists_value?_iff, Option.eq_none_iff_forall_ne_some, not_exists]

/-- The value of a variable is all that matters of an environment. -/
theorem value?_congr {e' : Environment} (same : e v.name = e' v.name) : e.value? v = e'.value? v := by
  rw [value?, value?, get?, get?, same]

end Environment

instance (v : Variable) (given : Option String) : Decidable (v.Usable given) :=
  decidable_of_iff (Environment.value? (fun _ => given) v).isSome
    (Option.isSome_iff_exists.trans Environment.exists_value?_iff)

variable {e : Environment} {s : Settings}

theorem get_applyVariable (v : Variable) :
    (applyVariable e s v).get v.field = (e.value? v).getD (s.get v.field) := by
  unfold applyVariable Environment.value?
  cases e.get? v with
  | none => rfl
  | some text =>
    cases v with
    | port =>
      simp only [setVariable, Option.bind_some, Variable.value?]
      cases port? (Text.trim text) <;> rfl
    | _ => rfl

theorem get_applyVariable_of_ne {v : Variable} {f : Field} (other : v.field ≠ f) :
    (applyVariable e s v).get f = s.get f := by
  unfold applyVariable
  cases e.get? v with
  | none => rfl
  | some text =>
    cases v with
    | port =>
      simp only [setVariable]
      cases port? (Text.trim text) with
      | none => rfl
      | some p => cases f <;> first | rfl | exact absurd rfl other
    | _ => cases f <;> first | rfl | exact absurd rfl other

theorem get_foldl_of_ne {vs : List Variable} {f : Field} (other : ∀ v ∈ vs, v.field ≠ f) :
    (vs.foldl (applyVariable e) s).get f = s.get f := by
  induction vs generalizing s with
  | nil => rfl
  | cons v vs ih =>
    rw [List.forall_mem_cons] at other
    rw [List.foldl_cons, ih other.2, get_applyVariable_of_ne other.1]

/-- Of several variables only its own one changes a field, however often it comes. -/
theorem get_foldl {vs : List Variable} {v : Variable} (member : v ∈ vs) :
    (vs.foldl (applyVariable e) s).get v.field = (e.value? v).getD (s.get v.field) := by
  induction vs generalizing s with
  | nil => cases member
  | cons w vs ih =>
    rw [List.foldl_cons]
    -- If the variable comes again, the same value is put into its field once more.
    by_cases later : v ∈ vs
    · rw [ih later]
      by_cases same : w = v
      · subst same
        rw [get_applyVariable]
        cases e.value? w <;> rfl
      · rw [get_applyVariable_of_ne fun fields => same (Variable.field_injective fields)]
    · obtain rfl : v = w := (List.mem_cons.1 member).resolve_right later
      have others : ∀ w ∈ vs, w.field ≠ v.field := by
        rintro w among fields
        exact later (Variable.field_injective fields ▸ among)
      rw [get_foldl_of_ne others, get_applyVariable]

theorem get_applyEnvironment (s : Settings) (e : Environment) (v : Variable) :
    (s.applyEnvironment e).get v.field = (e.value? v).getD (s.get v.field) :=
  get_foldl v.mem_all

theorem get_applyEnvironment_of_ne (s : Settings) (e : Environment) {f : Field} (other : ∀ v : Variable, v.field ≠ f) :
    (s.applyEnvironment e).get f = s.get f :=
  get_foldl_of_ne fun v _ => other v

/-- Settings over which an environment was applied are known by the environment's values and by the other fields. -/
theorem applyEnvironment_eq {s t : Settings} {e : Environment}
    (values : ∀ v : Variable, t.get v.field = (e.value? v).getD (s.get v.field))
    (others : ∀ f, (∀ v : Variable, v.field ≠ f) → t.get f = s.get f) : t = s.applyEnvironment e := by
  refine eq_of_get_eq fun f => ?_
  by_cases overridden : ∃ v : Variable, v.field = f
  · obtain ⟨v, rfl⟩ := overridden
    rw [values, get_applyEnvironment]
  · rw [not_exists] at overridden
    rw [others f overridden, get_applyEnvironment_of_ne s e overridden]

theorem applyEnvironment_applyEnvironment (s : Settings) {first second both : Environment}
    (merged : ∀ v : Variable, both v.name = if v.Usable (second v.name) then second v.name else first v.name) :
    (s.applyEnvironment first).applyEnvironment second = s.applyEnvironment both := by
  refine applyEnvironment_eq ?_ ?_
  · intro v
    rw [get_applyEnvironment, get_applyEnvironment]
    have value := merged v
    split at value
    · rename_i usable
      obtain ⟨x, taken⟩ := Environment.exists_value?_iff.2 usable
      rw [Environment.value?_congr value, taken]
      rfl
    · rename_i unusable
      rw [Environment.value?_congr value, Environment.value?_eq_none_iff.2 unusable]
      rfl
  · intro f others
    rw [get_applyEnvironment_of_ne _ _ others, get_applyEnvironment_of_ne _ _ others]

/-- Overriding settings by two environments, one after the other, is overriding them by one that has, for each
variable, the value of the second where it can be used and else the value of the first. So the same environment again
changes nothing more. A variable with a value that can be used puts what it means into its field, whatever the other
variables hold, and one without leaves its field as it was, as all fields are left that are no variable's. -/
theorem overrides_compose :
    (∀ (s : Settings) (first second both : Environment),
      (∀ v : Variable, both v.name = if v.Usable (second v.name) then second v.name else first v.name) →
      (s.applyEnvironment first).applyEnvironment second = s.applyEnvironment both) ∧
    ∀ (s : Settings) (e : Environment),
      (s.applyEnvironment e).applyEnvironment e = s.applyEnvironment e ∧
      (∀ (v : Variable) (text : String), e v.name = some text → v.Usable (some text) →
        v.Means text ((s.applyEnvironment e).get v.field)) ∧
      (∀ v : Variable, ¬v.Usable (e v.name) → (s.applyEnvironment e).get v.field = s.get v.field) ∧
      ∀ f, (∀ v : Variable, v.field ≠ f) → (s.applyEnvironment e).get f = s.get f := by
  refine ⟨fun s _ _ _ => applyEnvironment_applyEnvironment s, fun s e => ⟨?_, ?_, ?_, ?_⟩⟩
  · exact applyEnvironment_applyEnvironment s fun v => (ite_self _).symm
  · intro v text given usable
    obtain ⟨x, taken⟩ := Environment.exists_value?_iff.2 (given ▸ usable)
    obtain ⟨text', given', _, meant⟩ := Environment.value?_eq_some_iff.1 taken
    obtain rfl := Option.some.inj (given.symm.trans given')
    rwa [get_applyEnvironment, taken]
  · intro v unusable
    rw [get_applyEnvironment, Environment.value?_eq_none_iff.2 unusable]
    rfl
  · exact fun f => get_applyEnvironment_of_ne s e

/-- A port with a plus sign, zeros and blanks holds out against one that is too large, which does not stop the other
variables of its environment. -/
theorem overrides_compose_over_port :
    let first : Environment := fun name =>
      [(Variable.host.name, "h"), (Variable.port.name, "\u2003+0080 ")].lookup name
    let second : Environment := fun name =>
      [(Variable.host.name, ""), (Variable.port.name, "65536"), (Variable.database.name, "d")].lookup name
    let both : Environment := fun name =>
      [(Variable.host.name, "h"), (Variable.port.name, "\u2003+0080 "), (Variable.database.name, "d")].lookup name
    let s : Settings := {}
    (∀ v : Variable, both v.name = if v.Usable (second v.name) then second v.name else first v.name) ∧
      (s.applyEnvironment first).applyEnvironment second = s.applyEnvironment both ∧
      (s.applyEnvironment both).store = { host := "h", port := 80, database := "d" } ∧
      (s.applyEnvironment second).store = { database := "d" } := by
  intro first second both s
  have merged : ∀ v : Variable, both v.name = if v.Usable (second v.name) then second v.name else first v.name := by
    intro v
    cases v <;> decide +kernel
  exact ⟨merged, overrides_compose.1 s first second both merged, by decide +kernel, by decide +kernel⟩

end Harvest.Settings
