import Mathlib.Data.List.Induction

/-! # Since

The past operators of temporal logic over a list of inputs. `Since`: one of them started something, and none
that came after it has ended it. `Historically`: each of them fits what came before it. Whether an input
starts, ends or fits may depend on all that came before. -/

namespace StepRun

variable {ι : Type*} {starts ends : List ι → ι → Prop} {inputs : List ι}

variable {fits : List ι → ι → Prop} {last : ι}

/-- Some input starts it and none after it ends it. -/
def Since (starts ends : List ι → ι → Prop) (inputs : List ι) : Prop :=
  ∃ before input between, inputs = before ++ input :: between ∧ starts before input ∧
    ∀ earlier later rest, between = earlier ++ later :: rest → ¬ ends (before ++ input :: earlier) later

theorem not_since_nil : ¬ Since starts ends [] := by
  rintro ⟨before, input, between, split, -, -⟩
  simp at split

/-- The last input starts it, or it goes on and the last input does not end it. -/
theorem since_append_singleton :
    Since starts ends (inputs ++ [last]) ↔ starts inputs last ∨ Since starts ends inputs ∧ ¬ ends inputs last := by
  constructor
  · rintro ⟨before, input, between, split, started, unended⟩
    induction between using List.reverseRecOn with
    | nil =>
      obtain ⟨rfl, same⟩ := List.append_inj' split rfl
      cases same
      exact .inl started
    | append_singleton between final _ =>
      rw [← List.cons_append, ← List.append_assoc] at split
      obtain ⟨rfl, same⟩ := List.append_inj' split rfl
      cases same
      refine .inr ⟨⟨before, input, between, rfl, started, ?_⟩, unended between last [] rfl⟩
      intro earlier later rest cut
      apply unended earlier later (rest ++ [last])
      rw [cut, List.append_assoc, List.cons_append]
  · rintro (started | ⟨⟨before, input, between, rfl, started, unended⟩, kept⟩)
    · exact ⟨inputs, last, [], rfl, started, by simp⟩
    · refine ⟨before, input, between ++ [last], by simp, started, ?_⟩
      intro earlier later rest cut
      induction rest using List.reverseRecOn with
      | nil =>
        obtain ⟨rfl, same⟩ := List.append_inj' cut rfl
        cases same
        exact kept
      | append_singleton rest final _ =>
        rw [← List.cons_append, ← List.append_assoc] at cut
        obtain ⟨rfl, -⟩ := List.append_inj' cut rfl
        exact unended earlier later rest rfl

/-- Each input fits what came before it. -/
def Historically (fits : List ι → ι → Prop) (inputs : List ι) : Prop :=
  ∀ before input after, inputs = before ++ input :: after → fits before input

theorem historically_nil : Historically fits [] := by
  intro before input after split
  simp at split

theorem historically_append_singleton :
    Historically fits (inputs ++ [last]) ↔ Historically fits inputs ∧ fits inputs last := by
  constructor
  · intro holds
    refine ⟨?_, holds inputs last [] rfl⟩
    intro before input after split
    apply holds before input (after ++ [last])
    rw [split, List.append_assoc, List.cons_append]
  · rintro ⟨holds, here⟩ before input after split
    induction after using List.reverseRecOn with
    | nil =>
      obtain ⟨rfl, same⟩ := List.append_inj' split rfl
      cases same
      exact here
    | append_singleton after final _ =>
      rw [← List.cons_append, ← List.append_assoc] at split
      obtain ⟨rfl, -⟩ := List.append_inj' split rfl
      exact holds before input after rfl

end StepRun
