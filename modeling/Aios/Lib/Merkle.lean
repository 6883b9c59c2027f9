import Mathlib.Data.List.Basic
import Mathlib.Tactic.TypeStar

/-! # Binary hash trees

A tree over a list of labels is built level by level: neighbours are joined into one text and the
text is hashed, an odd last label is joined with itself. A proof is a list of siblings with an index
whose bits say on which side the sibling stands. Leaves and inner nodes share one hash function and
nothing tags them, so soundness needs that the text behind a leaf is not a joined text.
-/

namespace Merkle

/-- A hash of texts, and the text that joins two labels. Only a digest at a known place is read back
from a joined text; the other part may be any label. -/
structure Scheme (Label Text : Type*) where
  hash : Text → Label
  join : Label → Label → Text
  IsDigest : Label → Prop
  hash_isDigest : ∀ text, IsDigest (hash text)
  join_left : ∀ label sibling left right, IsDigest label → IsDigest left →
    join label sibling = join left right → label = left
  join_right : ∀ label sibling left right, IsDigest label → IsDigest right →
    join sibling label = join left right → label = right

namespace Scheme

variable {Label Text : Type*} (scheme : Scheme Label Text)

/-! ## Building -/

/-- The texts hashed for the level above. -/
def levelTexts : List Label → List Text
  | [] => []
  | [last] => [scheme.join last last]
  | left :: right :: rest => scheme.join left right :: levelTexts rest

def levelUp (level : List Label) : List Label := (scheme.levelTexts level).map scheme.hash

theorem levelTexts_length (level : List Label) : (scheme.levelTexts level).length = (level.length + 1) / 2 := by
  induction level using levelTexts.induct with
  | case1 => simp [levelTexts]
  | case2 last => simp [levelTexts]
  | case3 left right rest ih =>
    simp only [levelTexts, List.length_cons, ih]
    omega

/-- Rise while more than one label is left. -/
def rise : ℕ → List Label → List Label
  | 0, level => level
  | fuel + 1, level => if 1 < level.length then rise fuel (scheme.levelUp level) else level

theorem levelUp_isDigest {level : List Label} : ∀ label ∈ scheme.levelUp level, scheme.IsDigest label := by
  intro label member
  obtain ⟨text, -, rfl⟩ := List.mem_map.mp member
  exact scheme.hash_isDigest text

theorem rise_isDigest {fuel : ℕ} {level : List Label} (digests : ∀ label ∈ level, scheme.IsDigest label) :
    ∀ label ∈ scheme.rise fuel level, scheme.IsDigest label := by
  induction fuel generalizing level with
  | zero => exact digests
  | succ fuel ih =>
    rw [rise]
    split_ifs
    · exact ih scheme.levelUp_isDigest
    · exact digests

/-- All texts hashed on the way up. -/
def treeTexts : ℕ → List Label → List Text
  | 0, _ => []
  | fuel + 1, level =>
    if 1 < level.length then scheme.levelTexts level ++ treeTexts fuel (scheme.levelUp level) else []

/-- The labels of a tree over `leaves` whose inner nodes hash texts of `texts`. -/
inductive Built (leaves : List Label) (texts : List Text) : Label → Prop where
  | leaf {label : Label} (listed : label ∈ leaves) : Built leaves texts label
  | inner {left right : Label} (builtLeft : Built leaves texts left) (builtRight : Built leaves texts right)
      (hashed : scheme.join left right ∈ texts) : Built leaves texts (scheme.hash (scheme.join left right))

variable {scheme} {leaves : List Label} {texts : List Text}

theorem Built.levelUp {level : List Label} (built : ∀ label ∈ level, scheme.Built leaves texts label)
    (hashed : ∀ text ∈ scheme.levelTexts level, text ∈ texts) :
    ∀ label ∈ scheme.levelUp level, scheme.Built leaves texts label := by
  induction level using levelTexts.induct with
  | case1 => simp [Scheme.levelUp, levelTexts]
  | case2 last =>
    have own := built last List.mem_cons_self
    intro label member
    simp only [Scheme.levelUp, levelTexts, List.map_cons, List.map_nil, List.mem_singleton] at member
    subst member
    exact .inner own own (hashed _ List.mem_cons_self)
  | case3 left right rest ih =>
    intro label member
    simp only [Scheme.levelUp, levelTexts, List.map_cons, List.mem_cons] at member
    rcases member with rfl | member
    · exact .inner (built left (by simp)) (built right (by simp)) (hashed _ List.mem_cons_self)
    · exact ih (fun label later => built label (by simp [later]))
        (fun text later => hashed text (List.mem_cons_of_mem _ later)) label member

theorem Built.rise {fuel : ℕ} {level : List Label} (built : ∀ label ∈ level, scheme.Built leaves texts label)
    (hashed : ∀ text ∈ scheme.treeTexts fuel level, text ∈ texts) :
    ∀ label ∈ scheme.rise fuel level, scheme.Built leaves texts label := by
  induction fuel generalizing level with
  | zero => exact built
  | succ fuel ih =>
    simp only [Scheme.rise]
    simp only [treeTexts] at hashed
    split_ifs with many
    · rw [if_pos many] at hashed
      apply ih
      · exact Built.levelUp built fun text member => hashed text (List.mem_append_left _ member)
      · exact fun text member => hashed text (List.mem_append_right _ member)
    · exact built

/-! ## Proofs -/

variable (scheme)

/-- The text one step of a proof hashes: an even index has its sibling on the right. -/
def stepText (label sibling : Label) (index : ℕ) : Text :=
  if index % 2 = 0 then scheme.join label sibling else scheme.join sibling label

def pathRoot : Label → List Label → ℕ → Label
  | label, [], _ => label
  | label, sibling :: rest, index => pathRoot (scheme.hash (scheme.stepText label sibling index)) rest (index / 2)

/-- All texts hashed along a proof. -/
def pathTexts : Label → List Label → ℕ → List Text
  | _, [], _ => []
  | label, sibling :: rest, index =>
    scheme.stepText label sibling index ::
      pathTexts (scheme.hash (scheme.stepText label sibling index)) rest (index / 2)

/-- No two of the texts have one hash. -/
def CollisionFree (texts : List Text) : Prop :=
  ∀ text ∈ texts, ∀ other ∈ texts, scheme.hash text = scheme.hash other → text = other

instance [DecidableEq Label] [DecidableEq Text] (texts : List Text) : Decidable (scheme.CollisionFree texts) :=
  inferInstanceAs (Decidable (∀ text ∈ texts, ∀ other ∈ texts, _ → _))

/-- A text that no digest joined with a label can be. -/
def Unjoined (text : Text) : Prop :=
  ∀ label sibling, scheme.IsDigest label → text ≠ scheme.join label sibling ∧ text ≠ scheme.join sibling label

/-- Every leaf is the hash of a text that is not a joined one. -/
def HashedLeaves (leaves : List Label) (texts : List Text) : Prop :=
  ∀ label ∈ leaves, ∃ text ∈ texts, label = scheme.hash text ∧ scheme.Unjoined text

variable {scheme}

section

variable {text : Text} {label : Label} {siblings : List Label} {index : ℕ}

theorem Unjoined.ne_stepText (unjoined : scheme.Unjoined text) (digest : scheme.IsDigest label) (sibling : Label)
    (index : ℕ) : text ≠ scheme.stepText label sibling index := by
  obtain ⟨front, back⟩ := unjoined label sibling digest
  rw [stepText]
  split_ifs
  · exact front
  · exact back

theorem Built.isDigest (genuine : scheme.HashedLeaves leaves texts) (built : scheme.Built leaves texts label) :
    scheme.IsDigest label := by
  cases built with
  | leaf listed =>
    obtain ⟨text, -, rfl, -⟩ := genuine label listed
    exact scheme.hash_isDigest text
  | inner => exact scheme.hash_isDigest _

/-- One step down: where the hashed step is a label of the tree, so is the label it starts from. -/
theorem Built.of_stepText (free : scheme.CollisionFree texts) (genuine : scheme.HashedLeaves leaves texts)
    {sibling : Label} (digest : scheme.IsDigest label) (hashed : scheme.stepText label sibling index ∈ texts)
    {parent : Label} (above : parent = scheme.hash (scheme.stepText label sibling index))
    (built : scheme.Built leaves texts parent) : scheme.Built leaves texts label := by
  cases built with
  | leaf listed =>
    obtain ⟨text, known, same, unjoined⟩ := genuine parent listed
    exact absurd (free text known _ hashed (same.symm.trans above)) (unjoined.ne_stepText digest sibling index)
  | @inner left right builtLeft builtRight known =>
    have equal := free _ hashed _ known above.symm
    rw [stepText] at equal
    split_ifs at equal
    · rw [scheme.join_left label sibling left right digest (builtLeft.isDigest genuine) equal]
      exact builtLeft
    · rw [scheme.join_right label sibling left right digest (builtRight.isDigest genuine) equal]
      exact builtRight

/-- A proof that ends in a label of the tree starts in one, whatever the siblings are. -/
theorem Built.of_pathRoot (free : scheme.CollisionFree texts) (genuine : scheme.HashedLeaves leaves texts)
    (digest : scheme.IsDigest label) (hashed : ∀ text ∈ scheme.pathTexts label siblings index, text ∈ texts)
    (built : scheme.Built leaves texts (scheme.pathRoot label siblings index)) : scheme.Built leaves texts label := by
  induction siblings generalizing label index with
  | nil => exact built
  | cons sibling rest ih =>
    have above := ih (scheme.hash_isDigest (scheme.stepText label sibling index))
      (fun text later => hashed text (List.mem_cons_of_mem _ later)) built
    exact Built.of_stepText free genuine digest (hashed _ List.mem_cons_self) rfl above

/-- A proof ends in its start or in the hash of its last step. -/
theorem pathRoot_cases (digest : scheme.IsDigest label) :
    scheme.pathRoot label siblings index = label ∨
      ∃ last sibling place, scheme.IsDigest last ∧
        scheme.stepText last sibling place ∈ scheme.pathTexts label siblings index ∧
        scheme.pathRoot label siblings index = scheme.hash (scheme.stepText last sibling place) := by
  induction siblings generalizing label index with
  | nil => exact .inl rfl
  | cons sibling rest ih =>
    refine .inr ?_
    obtain same | ⟨last, other, place, lastDigest, hashed, same⟩ :=
      ih (scheme.hash_isDigest (scheme.stepText label sibling index))
    · exact ⟨label, sibling, index, digest, List.mem_cons_self, same⟩
    · exact ⟨last, other, place, lastDigest, List.mem_cons_of_mem _ hashed, same⟩

/-- A label of the tree whose own text is not a joined one is a leaf. -/
theorem Built.mem_leaves (free : scheme.CollisionFree texts) (known : text ∈ texts) (unjoined : scheme.Unjoined text)
    (genuine : scheme.HashedLeaves leaves texts) (own : label = scheme.hash text)
    (built : scheme.Built leaves texts label) : label ∈ leaves := by
  cases built with
  | leaf listed => exact listed
  | @inner left right builtLeft builtRight hashed =>
    have equal := free text known _ hashed own.symm
    exact absurd equal (unjoined left right (builtLeft.isDigest genuine)).1

/-! ## Building a proof -/

/-- The label beside a place of a level; an odd last label stands beside itself. A place outside the
level has none. -/
def neighbour (level : List Label) (index : ℕ) : Option Label :=
  (level[if index % 2 = 0 then index + 1 else index - 1]?).or level[index]?

end

variable (scheme)

/-- The neighbours on the way up from a place. -/
def proof : ℕ → List Label → ℕ → Option (List Label)
  | 0, _, _ => some []
  | fuel + 1, level, index =>
    if 1 < level.length then do
      let sibling ← neighbour level index
      let siblings ← proof fuel (scheme.levelUp level) (index / 2)
      some (sibling :: siblings)
    else some []

variable {scheme}

variable {level : List Label} {index : ℕ} {label : Label}

theorem neighbour_cons_cons (left right : Label) (rest : List Label) (index : ℕ) :
    neighbour (left :: right :: rest) (index + 2) = neighbour rest index := by
  unfold neighbour
  rw [Nat.add_mod_right]
  split_ifs with even
  · rfl
  · obtain ⟨before, rfl⟩ := Nat.exists_eq_succ_of_ne_zero (n := index) (by rintro rfl; exact even rfl)
    rfl

/-- The text above a label joins it with its neighbour. -/
theorem levelTexts_getElem? (placed : level[index]? = some label) :
    ∃ sibling, neighbour level index = some sibling ∧
      (scheme.levelTexts level)[index / 2]? = some (scheme.stepText label sibling index) := by
  induction level using levelTexts.induct generalizing index with
  | case1 => simp at placed
  | case2 last =>
    obtain rfl : index = 0 := by
      have inside := (List.getElem?_eq_some_iff.mp placed).1
      rw [List.length_singleton] at inside
      omega
    obtain rfl : last = label := Option.some.inj placed
    exact ⟨last, rfl, rfl⟩
  | case3 left right rest ih =>
    match index with
    | 0 =>
      obtain rfl : left = label := Option.some.inj placed
      exact ⟨right, rfl, rfl⟩
    | 1 =>
      obtain rfl : right = label := Option.some.inj placed
      exact ⟨left, rfl, rfl⟩
    | index + 2 =>
      obtain ⟨sibling, beside, joined⟩ := ih placed
      refine ⟨sibling, (neighbour_cons_cons left right rest index).trans beside, ?_⟩
      rw [levelTexts, Nat.add_div_right index Nat.two_pos, List.getElem?_cons_succ, joined, stepText, stepText,
        Nat.add_mod_right]

theorem eq_singleton_of_getElem? (placed : level[index]? = some label) (short : level.length ≤ 1) :
    level = [label] := by
  obtain ⟨inside, same⟩ := List.getElem?_eq_some_iff.mp placed
  obtain ⟨only, rfl⟩ := List.length_eq_one_iff.mp (by omega : level.length = 1)
  obtain rfl : index = 0 := by
    rw [List.length_singleton] at inside
    omega
  exact congrArg (fun label => [label]) same

/-- The neighbours on the way up from a leaf prove it: they lead to the root, through texts of the
tree. -/
theorem proof_spec {fuel : ℕ} (placed : level[index]? = some label) (enough : level.length ≤ fuel + 1) :
    ∃ siblings, scheme.proof fuel level index = some siblings ∧
      scheme.rise fuel level = [scheme.pathRoot label siblings index] ∧
      ∀ text ∈ scheme.pathTexts label siblings index, text ∈ scheme.treeTexts fuel level := by
  induction fuel generalizing level index label with
  | zero => exact ⟨[], rfl, eq_singleton_of_getElem? placed enough, by simp [pathTexts]⟩
  | succ fuel ih =>
    rw [proof, rise, treeTexts]
    split_ifs with many
    · obtain ⟨sibling, beside, joined⟩ := scheme.levelTexts_getElem? placed
      have above : (scheme.levelUp level)[index / 2]? = some (scheme.hash (scheme.stepText label sibling index)) := by
        rw [levelUp, List.getElem?_map, joined, Option.map_some]
      have shorter : (scheme.levelUp level).length ≤ fuel + 1 := by
        rw [levelUp, List.length_map, levelTexts_length]
        omega
      obtain ⟨siblings, proved, risen, hashed⟩ := ih above shorter
      refine ⟨sibling :: siblings, ?_, risen, ?_⟩
      · rw [beside, proved]
        rfl
      · intro text member
        rcases List.mem_cons.mp member with rfl | later
        · exact List.mem_append_left _ (List.mem_of_getElem? joined)
        · exact List.mem_append_right _ (hashed text later)
    · exact ⟨[], rfl, eq_singleton_of_getElem? placed (Nat.not_lt.mp many), by simp [pathTexts]⟩

/-! ## Binding -/

section

variable {texts : List Text} (free : scheme.CollisionFree texts) {other : List Label}
  (digests : ∀ label ∈ level, scheme.IsDigest label) (digests' : ∀ label ∈ other, scheme.IsDigest label)
  (sizes : level.length = other.length)
include free digests digests' sizes

/-- Levels of one length that are hashed to the same labels are the same. -/
theorem levelUp_injective (hashed : ∀ text ∈ scheme.levelTexts level, text ∈ texts)
    (hashed' : ∀ text ∈ scheme.levelTexts other, text ∈ texts) (same : scheme.levelUp level = scheme.levelUp other) :
    level = other := by
  induction level using levelTexts.induct generalizing other with
  | case1 => exact (List.length_eq_zero_iff.mp sizes.symm).symm
  | case2 last =>
    obtain ⟨last', rfl⟩ := List.length_eq_one_iff.mp sizes.symm
    have joined := free _ (hashed _ List.mem_cons_self) _ (hashed' _ List.mem_cons_self) (List.cons.inj same).1
    rw [scheme.join_left _ _ _ _ (digests last List.mem_cons_self) (digests' last' List.mem_cons_self) joined]
  | case3 left right rest ih =>
    obtain _ | ⟨left', _ | ⟨right', rest'⟩⟩ := other
    · cases sizes
    · cases sizes
    rw [List.forall_mem_cons, List.forall_mem_cons] at digests digests'
    rw [levelTexts, List.forall_mem_cons] at hashed hashed'
    obtain ⟨pair, later⟩ := List.cons.inj same
    have joined := free _ hashed.1 _ hashed'.1 pair
    obtain rfl := scheme.join_left _ _ _ _ digests.1 digests'.1 joined
    obtain rfl := scheme.join_right _ _ _ _ digests.2.1 digests'.2.1 joined
    obtain rfl := ih digests.2.2 digests'.2.2 (by simpa using sizes) hashed.2 hashed'.2 later
    rfl

/-- Levels of one length with one root are the same. -/
theorem rise_injective {fuel : ℕ} (hashed : ∀ text ∈ scheme.treeTexts fuel level, text ∈ texts)
    (hashed' : ∀ text ∈ scheme.treeTexts fuel other, text ∈ texts)
    (same : scheme.rise fuel level = scheme.rise fuel other) : level = other := by
  induction fuel generalizing level other with
  | zero => exact same
  | succ fuel ih =>
    rw [rise, rise, ← sizes] at same
    rw [treeTexts] at hashed hashed'
    rw [← sizes] at hashed'
    by_cases many : 1 < level.length
    · rw [if_pos many, List.forall_mem_append] at hashed hashed'
      rw [if_pos many, if_pos many] at same
      have upSizes : (scheme.levelUp level).length = (scheme.levelUp other).length := by
        rw [levelUp, levelUp, List.length_map, List.length_map, levelTexts_length, levelTexts_length, sizes]
      have upSame := ih scheme.levelUp_isDigest scheme.levelUp_isDigest upSizes hashed.2 hashed'.2 same
      exact levelUp_injective free digests digests' sizes hashed.1 hashed'.1 upSame
    · rwa [if_neg many, if_neg many] at same

end

end Scheme

end Merkle
