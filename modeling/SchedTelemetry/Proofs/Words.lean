import SchedTelemetry.Text.Blank

set_option autoImplicit false

namespace SchedTelemetry.Text

def IsWord (w : List Char) : Prop := w ≠ [] ∧ ∀ c ∈ w, isBlank c = false

-- A text with these words: blanks stand between two words, and anywhere else they may.
inductive Spaced : List (List Char) → List Char → Prop where
  | nil : Spaced [] []
  | blank {c : Char} {ws : List (List Char)} {line : List Char} (blank : isBlank c = true)
      (rest : Spaced ws line) : Spaced ws (c :: line)
  | word {w : List Char} {ws : List (List Char)} {line : List Char} (word : IsWord w)
      (rest : Spaced ws line) (parted : ∀ c ∈ line.head?, isBlank c = true) :
      Spaced (w :: ws) (w ++ line)

theorem words_blank {c : Char} (blank : isBlank c = true) (line : List Char) :
    words (c :: line) = words line := by
  simp [words, List.splitOnP_cons_eq_if_modifyHead, blank]

theorem words_word {w : List Char} (word : IsWord w) {line : List Char}
    (parted : ∀ c ∈ line.head?, isBlank c = true) : words (w ++ line) = w :: words line := by
  obtain ⟨some_char, plain⟩ := word
  cases line with
  | nil => simp [words, List.splitOnP_eq_singleton plain, some_char]
  | cons c rest =>
    have blank : isBlank c = true := parted c rfl
    rw [words_blank blank, words, List.splitOnP_append_cons_of_forall_mem plain c blank]
    simp [words, some_char]

namespace Spaced

variable {ws : List (List Char)} {line : List Char}

theorem words_eq (spaced : Spaced ws line) : words line = ws := by
  induction spaced with
  | nil => rfl
  | blank blank _ ih => rw [words_blank blank, ih]
  | word word _ parted ih => rw [words_word word parted, ih]

theorem append_blank (spaced : Spaced ws line) {c : Char} (blank : isBlank c = true) :
    Spaced ws (line ++ [c]) := by
  induction spaced with
  | nil => exact .blank blank .nil
  | blank first _ ih => exact .blank first ih
  | @word w _ line word _ parted ih =>
    rw [List.append_assoc]
    refine .word word ih ?_
    cases line with
    | nil => simpa using blank
    | cons d rest => simpa using parted

theorem cons_char (spaced : Spaced ws line) {c : Char} (plain : isBlank c = false) :
    ∃ ws, Spaced ws (c :: line) := by
  have single : IsWord [c] := ⟨by simp, by simpa using plain⟩
  cases spaced with
  | nil => exact ⟨_, .word single .nil (by simp)⟩
  | blank blank rest => exact ⟨_, .word single (.blank blank rest) (by simpa using blank)⟩
  | @word w _ _ word rest parted =>
    have longer : IsWord (c :: w) := ⟨by simp, by simpa using ⟨plain, word.2⟩⟩
    exact ⟨_, .word longer rest parted⟩

end Spaced

theorem spaced_words (line : List Char) : Spaced (words line) line := by
  have laid_out : ∃ ws, Spaced ws line := by
    induction line with
    | nil => exact ⟨[], .nil⟩
    | cons c rest ih =>
      obtain ⟨ws, spaced⟩ := ih
      cases blank : isBlank c with
      | true => exact ⟨ws, .blank blank spaced⟩
      | false => exact spaced.cons_char blank
  obtain ⟨ws, spaced⟩ := laid_out
  rwa [spaced.words_eq]

section lines

variable {line : List Char} (unbroken : '\n' ∉ line)

include unbroken

theorem lines_last : lines line = [line] :=
  List.splitOn_eq_singleton unbroken

theorem lines_line (rest : List Char) : lines (line ++ '\n' :: rest) = line :: lines rest :=
  List.splitOn_append_cons_self_of_not_mem unbroken rest

end lines

@[elab_as_elim]
theorem lines_induction {motive : List Char → Prop} (last : ∀ line, '\n' ∉ line → motive line)
    (line : ∀ line rest, '\n' ∉ line → motive rest → motive (line ++ '\n' :: rest))
    (text : List Char) : motive text := by
  by_cases broken : '\n' ∈ text
  · obtain ⟨first, rest, shape, unbroken⟩ := List.eq_append_cons_of_mem broken
    have shorter : rest.length < text.length := by
      simp only [shape, List.length_append, List.length_cons]
      omega
    exact shape ▸ line first rest unbroken (lines_induction last line rest)
  · exact last text broken
termination_by text.length

end SchedTelemetry.Text
