import Harvest.Proofs.Url.Characters
import Harvest.Url.Parser

/-!
Paths under construction. Whatever segments are put behind a path, it starts with a slash, and nothing is in it that a
reader leaves out.
-/

namespace Harvest.Url

variable {family : Family} {s : PathState} {cs : List Char}

theorem kept_of_inPath {c : Char} (free : inPath c = false) : isLeftOut c = false := by
  have printed := printed_of_inPath free
  simp only [isLeftOut, Bool.or_eq_false_iff, decide_eq_false_iff_not]
  refine ⟨⟨?_, ?_⟩, ?_⟩ <;> rintro rfl <;> exact absurd printed (by decide)

theorem kept_of_letter {c : Char} (letter : isAsciiLetter c = true) : isLeftOut c = false := by
  by_contra out
  simp only [isLeftOut, Bool.not_eq_false, Bool.or_eq_true, decide_eq_true_eq] at out
  rcases out with (rfl | rfl) | rfl <;> exact absurd letter (by decide)

theorem kept_code : ∀ c ∈ codeChars, isLeftOut c = false := Text.forall_chars (by decide)

/-- Characters that a reader does not leave out. -/
def Kept (cs : List Char) : Prop := ∀ c ∈ cs, isLeftOut c = false

theorem kept_encode (raw : List Char) : Kept (encode inPath raw) :=
  forall_mem_encode (fun _ _ => kept_of_inPath) kept_code

namespace PathState

/-- Whether a path, whose last character comes first, starts with a slash and is read as it is. -/
structure Rooted (s : PathState) : Prop where
  first : s.reversed.getLast? = some '/'
  kept : Kept s.reversed

namespace Rooted

theorem root (keepsHost : Bool) : (PathState.root keepsHost).Rooted :=
  ⟨rfl, fun _ member => List.mem_singleton.1 member ▸ rfl⟩

theorem path (rooted : s.Rooted) : s.path.head? = some '/' ∧ Kept s.path :=
  ⟨List.head?_reverse.trans rooted.first, fun c member => rooted.kept c (List.mem_reverse.1 member)⟩

theorem append (rooted : s.Rooted) (kept : Kept cs) : (s.append cs).Rooted := by
  refine ⟨?_, fun c member => ?_⟩
  · rw [PathState.append, List.getLast?_append, rooted.first]
    rfl
  · rcases List.mem_append.1 member with new | old
    · exact kept c (List.mem_reverse.1 new)
    · exact rooted.kept c old

theorem withSlash (rooted : s.Rooted) : s.withSlash.Rooted := by
  have slash : (s.append ['/']).Rooted := rooted.append fun c member => List.mem_singleton.1 member ▸ rfl
  unfold PathState.withSlash
  split
  · exact rooted
  · exact slash

theorem upToSlash (rooted : s.Rooted) : s.upToSlash.Rooted := by
  have kept : Kept s.upToSlash.reversed := fun c member =>
    rooted.kept c ((List.dropWhile_suffix _).subset member)
  refine ⟨?_, kept⟩
  obtain ⟨before, whole⟩ := List.getLast?_eq_some_iff.1 rooted.first
  rw [PathState.upToSlash, whole, List.dropWhile_append]
  split
  · rfl
  · exact List.getLast?_concat

theorem dropLast (rooted : s.Rooted) (may : s.slashMayGo = true) : s.dropLast.Rooted := by
  have kept : Kept s.dropLast.reversed := fun c member => rooted.kept c (List.mem_of_mem_tail member)
  refine ⟨?_, kept⟩
  have present : s.reversed.tail ≠ [] := by
    rintro none
    simp [slashMayGo, PathState.dropLast, none] at may
  obtain ⟨c, rest, whole⟩ := List.exists_cons_of_ne_nil (l := s.reversed) (by rintro none; simp [none] at present)
  have first := rooted.first
  rw [whole, List.tail_cons] at present
  rwa [PathState.dropLast, whole, List.tail_cons, ← List.getLast?_cons_of_ne_nil present, ← whole]

theorem goUp (rooted : s.Rooted) (family : Family) : (s.goUp family).Rooted := by
  have above {t : PathState} (rooted : t.Rooted) : (t.pop family).Rooted := by
    unfold PathState.pop
    split
    · exact rooted
    · exact rooted.upToSlash
  unfold PathState.goUp
  split
  · rename_i slash
    exact above (rooted.dropLast (Bool.and_eq_true_iff.1 slash).2)
  · exact above rooted

theorem push (rooted : s.Rooted) (family : Family) {segment : List Char} (kept : Kept segment) (slash : Bool) :
    (s.push family segment slash).Rooted := by
  have ending : Kept (if slash then ['/'] else []) := by cases slash <;> simp [Kept, isLeftOut]
  have drive : Kept (segment.take 1 ++ ':' :: if slash then ['/'] else []) := by
    intro c member
    rcases List.mem_append.1 member with first | rest
    · exact kept c (List.mem_of_mem_take first)
    · rcases List.mem_cons.1 rest with rfl | last
      · rfl
      · exact ending c last
  simp only [PathState.push]
  split
  · split
    · exact (rooted.goUp family).withSlash
    · exact rooted.goUp family
  · split
    · exact rooted.withSlash
    · split
      · exact ⟨(rooted.append drive).first, (rooted.append drive).kept⟩
      · exact (rooted.append kept).append ending

theorem add (rooted : s.Rooted) (family : Family) (raw : List Char) (slash : Bool) :
    (s.add family raw slash).Rooted := by
  unfold PathState.add
  split
  · exact rooted.withSlash.push family (kept_encode raw) slash
  · exact rooted.push family (kept_encode raw) slash

end Rooted

end PathState

theorem kept_drive {gaps : List Nat} {current rest : List Char}
    (drive : s.isDriveBeforeGap family gaps current rest = true) : Kept (current.reverse.take 1) := by
  simp only [PathState.isDriveBeforeGap, isNormalDriveLetter, Bool.and_eq_true] at drive
  obtain ⟨⟨_, letter, _⟩, _⟩ := drive
  match current with
  | [] | [_] | _ :: _ :: _ :: _ => simp [isDriveLetter] at letter
  | [d, c] =>
    intro x member
    obtain rfl := List.mem_singleton.1 member
    simp only [List.take, List.reverse_cons, List.reverse_nil, List.nil_append, List.singleton_append, isDriveLetter,
      Bool.and_eq_true] at letter
    exact kept_of_letter letter.1

theorem rooted_readSegments (gaps : List Nat) : ∀ (cs : List Char) {s : PathState} (current : List Char),
    s.Rooted → (readSegments family gaps s current cs).1.Rooted
  | [], s, current, rooted => rooted.add family current.reverse false
  | c :: rest, s, current, rooted => by
    rw [readSegments]
    split
    · split
      · exact rooted.add family current.reverse false
      · exact rooted_readSegments gaps rest [] (rooted.add family current.reverse true)
    · split
      · rename_i drive
        exact rooted_readSegments gaps rest [c, '/', ':'] (rooted.append (kept_drive drive))
      · exact rooted_readSegments gaps rest (c :: current) rooted

theorem rooted_readPath (rooted : s.Rooted) (cs : List Char) (gaps : List Nat) :
    (readPath family s cs gaps).1.Rooted := by
  have read : (readSegments family gaps s [] cs).1.Rooted := rooted_readSegments gaps cs [] rooted
  rw [readPath]
  dsimp only
  split
  · refine ⟨?_, fun c member => ?_⟩
    · exact List.getLast?_reverse.trans rfl
    · rcases List.mem_cons.1 (List.mem_reverse.1 member) with rfl | later
      · rfl
      · exact read.path.2 c ((List.dropWhile_suffix _).subset later)
  · exact read

/-- The path behind an authority is empty, or it starts with a slash. -/
theorem rooted_readPathStart (keepsHost : Bool) (cs : List Char) (gaps : List Nat) :
    (readPathStart family keepsHost cs gaps).1.path = [] ∨ (readPathStart family keepsHost cs gaps).1.Rooted := by
  have read (rest : List Char) (gaps : List Nat) : (readPath family (.root keepsHost) rest gaps).1.Rooted :=
    rooted_readPath (.root keepsHost) rest gaps
  unfold readPathStart
  split
  · split
    · split <;> exact .inr (read _ gaps)
    · split
      · exact .inl rfl
      · split <;> exact .inr (read _ [])
  · split
    · exact .inr (read [] [])
    · exact .inl rfl

end Harvest.Url
