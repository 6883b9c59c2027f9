import Mathlib.Data.List.Infix

/-! # Words behind a mark

A text in which each word stands behind a mark, and the words between the marks of a text. A text of
words that are free of the mark says which words they are, and one text is another cut at a mark exactly
if its words are the first words of the other.
-/

namespace Delimited

variable {α : Type*} {mark : α}

section

variable {rest : List α} (words : List (List α))

/-- Each word behind a mark. -/
def led (mark : α) (words : List (List α)) : List α := words.flatMap (mark :: ·)

@[simp] theorem led_nil : led mark [] = [] := rfl

@[simp] theorem led_cons (word : List α) (words : List (List α)) :
    led mark (word :: words) = mark :: (word ++ led mark words) := rfl

theorem led_append (more : List (List α)) : led mark (words ++ more) = led mark words ++ led mark more :=
  List.flatMap_append

/-- The text ends here or goes on with a mark. -/
def AtMark (mark : α) (text : List α) : Prop := ∀ c ∈ text.head?, c = mark

theorem atMark_led_append (stops : AtMark mark rest) : AtMark mark (led mark words ++ rest) := by
  cases words with
  | nil => exact stops
  | cons => exact fun c found => (Option.some.inj found).symm

theorem atMark_led : AtMark mark (led mark words) := by
  rw [← List.append_nil (led mark words)]
  exact atMark_led_append words nofun

/-- Where two texts agree, their first words do and so does the rest. -/
theorem word_inj {word word' rest' : List α} (free : mark ∉ word) (free' : mark ∉ word') (stops : AtMark mark rest)
    (stops' : AtMark mark rest') (same : word ++ rest = word' ++ rest') : word = word' ∧ rest = rest' := by
  induction word generalizing word' with
  | nil =>
    cases word' with
    | nil => exact ⟨rfl, same⟩
    | cons head tail =>
      rw [List.nil_append] at same
      obtain rfl : head = mark := stops head (by rw [same]; rfl)
      exact absurd List.mem_cons_self free'
  | cons head tail ih =>
    cases word' with
    | nil =>
      rw [List.nil_append] at same
      obtain rfl : head = mark := stops' head (by rw [← same]; rfl)
      exact absurd List.mem_cons_self free
    | cons head' tail' =>
      obtain ⟨rfl, later⟩ := List.cons.inj same
      have rests := ih (fun inside => free (List.mem_cons_of_mem _ inside))
        (fun inside => free' (List.mem_cons_of_mem _ inside)) later
      exact ⟨congrArg (head :: ·) rests.1, rests.2⟩

/-- One text is another cut at a mark exactly if its words are the first words of the other. -/
theorem led_append_eq_led_iff {first second : List (List α)} (free : ∀ word ∈ first, mark ∉ word)
    (free' : ∀ word ∈ second, mark ∉ word) :
    (∃ rest, AtMark mark rest ∧ led mark first ++ rest = led mark second) ↔ first <+: second := by
  constructor
  · rintro ⟨rest, stops, same⟩
    induction first generalizing second with
    | nil => exact List.nil_prefix
    | cons word first ih =>
      cases second with
      | nil => cases same
      | cons word' second =>
        rw [led_cons, led_cons, List.cons_append, List.append_assoc] at same
        obtain ⟨rfl, later⟩ := word_inj (free word List.mem_cons_self) (free' word' List.mem_cons_self)
          (atMark_led_append first stops) (atMark_led second) (List.cons.inj same).2
        rw [List.cons_prefix_cons]
        refine ⟨rfl, ih ?_ ?_ later⟩
        · exact fun other member => free other (List.mem_cons_of_mem _ member)
        · exact fun other member => free' other (List.mem_cons_of_mem _ member)
  · rintro ⟨more, rfl⟩
    exact ⟨led mark more, atMark_led more, (led_append first more).symm⟩

/-! ## The words of a text -/

theorem cons_intercalate {words : List (List α)} (nonempty : words ≠ []) :
    mark :: [mark].intercalate words = led mark words := by
  induction words with
  | nil => exact absurd rfl nonempty
  | cons word words ih =>
    cases words with
    | nil => simp
    | cons next words =>
      rw [led_cons, ← ih (List.cons_ne_nil _ _), List.intercalate_cons_cons]
      simp

end

variable [DecidableEq α]

variable {Word : List α → Prop} {text : List α}

/-- A piece between marks has none, and nothing that the text has not. -/
theorem mem_splitOn {piece : List α} (member : piece ∈ text.splitOn mark) : mark ∉ piece ∧ ∀ c ∈ piece, c ∈ text := by
  induction text generalizing piece with
  | nil =>
    rw [List.splitOn_nil, List.mem_singleton] at member
    subst member
    exact ⟨List.not_mem_nil, fun _ inside => inside⟩
  | cons head rest ih =>
    rw [List.splitOn_cons_eq_if_modifyHead] at member
    split_ifs at member with isMark
    · obtain rfl | member := List.mem_cons.mp member
      · exact ⟨List.not_mem_nil, fun _ inside => absurd inside List.not_mem_nil⟩
      · obtain ⟨free, inside⟩ := ih member
        exact ⟨free, fun c found => List.mem_cons_of_mem _ (inside c found)⟩
    · cases pieces : rest.splitOn mark with
      | nil => exact absurd pieces (List.splitOn_ne_nil mark rest)
      | cons first others =>
        rw [pieces] at member
        obtain rfl | member := List.mem_cons.mp member
        · obtain ⟨free, inside⟩ := ih (pieces ▸ List.mem_cons_self)
          have different : mark ≠ head := fun same => isMark (beq_iff_eq.mpr same.symm)
          refine ⟨List.not_mem_cons_of_ne_of_not_mem different free, ?_⟩
          intro c found
          obtain rfl | found := List.mem_cons.mp found
          · exact List.mem_cons_self
          · exact List.mem_cons_of_mem _ (inside c found)
        · obtain ⟨free, inside⟩ := ih (pieces ▸ List.mem_cons_of_mem _ member)
          exact ⟨free, fun c found => List.mem_cons_of_mem _ (inside c found)⟩

theorem led_splitOn (text : List α) : led mark (text.splitOn mark) = mark :: text := by
  rw [← cons_intercalate (List.splitOn_ne_nil mark text), List.intercalate_splitOn]

/-! ## Texts of words -/

/-- One or more words, separated by marks. -/
inductive Separated (mark : α) (Word : List α → Prop) : List α → Prop
  | word {word : List α} (holds : Word word) : Separated mark Word word
  | more {word rest : List α} (holds : Word word) (others : Separated mark Word rest) :
      Separated mark Word (word ++ mark :: rest)

omit [DecidableEq α] in
theorem separated_intercalate {words : List (List α)} (nonempty : words ≠ []) (holds : ∀ word ∈ words, Word word) :
    Separated mark Word ([mark].intercalate words) := by
  induction words with
  | nil => exact absurd rfl nonempty
  | cons word words ih =>
    obtain ⟨first, others⟩ := List.forall_mem_cons.mp holds
    cases words with
    | nil =>
      rw [List.intercalate_singleton]
      exact .word first
    | cons next words =>
      rw [List.intercalate_cons_cons, List.append_assoc]
      exact .more first (ih (List.cons_ne_nil _ _) others)

/-- Where words have no mark, a text of words is one whose pieces are words. -/
theorem separated_iff (free : ∀ word, Word word → mark ∉ word) :
    Separated mark Word text ↔ ∀ piece ∈ text.splitOn mark, Word piece := by
  constructor
  · intro separated
    induction separated with
    | word holds =>
      rw [List.splitOn_eq_singleton (free _ holds)]
      exact List.forall_mem_singleton.mpr holds
    | more holds others ih =>
      rw [List.splitOn_append_cons_self_of_not_mem (free _ holds)]
      exact List.forall_mem_cons.mpr ⟨holds, ih⟩
  · intro pieces
    have separated : Separated mark Word ([mark].intercalate (text.splitOn mark)) :=
      separated_intercalate (List.splitOn_ne_nil mark text) pieces
    rwa [List.intercalate_splitOn] at separated

end Delimited
