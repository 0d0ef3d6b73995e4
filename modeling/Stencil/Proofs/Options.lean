import Stencil.Formatter.Choose
import Stencil.Proofs.Text.Joined
import Stencil.Proofs.Text.Sequences

/-!
# Options one by one

Options are cut at separators first and their escapes resolved afterwards, one option at a time. No
sequence is cut in two on the way, nor does one go on differently where an option ends, so this
comes to the same as resolving the escapes of the whole text.
-/

namespace Stencil

set_option autoImplicit false

namespace Formatter

/-- The options as written, one by one. -/
def optionTexts (cs : List Char) : List (List Char) :=
  (splitOptionsAfter 0 cs).1 :: (splitOptionsAfter 0 cs).2

section Texts

variable {c : Char} {body cs : List Char}

theorem optionTexts_separator (cs : List Char) :
    optionTexts (sectionMark :: cs) = [] :: optionTexts cs := by
  have hmark : sectionMark ≠ escapeMark := by decide
  simp [optionTexts, splitOptionsAfter, hmark]

theorem optionTexts_plain (hmark : c ≠ escapeMark) (hseparator : c ≠ sectionMark) :
    optionTexts (c :: cs) = (optionTexts cs).modifyHead ([c] ++ ·) := by
  simp [optionTexts, splitOptionsAfter, hmark, hseparator]

theorem splitOptionsAfter_append (body cs : List Char) :
    splitOptionsAfter body.length (body ++ cs) =
      (body ++ (splitOptionsAfter 0 cs).1, (splitOptionsAfter 0 cs).2) := by
  induction body with
  | nil => rfl
  | cons b body ih => simp [splitOptionsAfter, ih]

theorem optionTexts_sequence (hbody : CharLiteral.SequenceBody body cs) :
    optionTexts (escapeMark :: (body ++ cs)) =
      (optionTexts cs).modifyHead ((escapeMark :: body) ++ ·) := by
  simp [optionTexts, splitOptionsAfter, hbody.extent_eq, splitOptionsAfter_append]

end Texts

end Formatter

namespace CharLiteral.Lexed

open Formatter

variable {text option : List Char} {tokens part : List (List Char)}

theorem sequence_ne_separator (body : List Char) : escapeMark :: body ≠ [sectionMark] := by
  have hne : escapeMark ≠ sectionMark := by decide
  simp [hne]

theorem modifyHead_map_flatten (token : List Char) (parts : List (List (List Char))) :
    (parts.map List.flatten).modifyHead (token ++ ·) =
      (parts.modifyHead (token :: ·)).map List.flatten := by
  cases parts <;> simp

/-- Options are cut where a separator is a token of its own. -/
theorem optionTexts_eq (h : Lexed text tokens) :
    optionTexts text = (tokens.splitOn [sectionMark]).map List.flatten := by
  induction h with
  | nil => rfl
  | @plain c cs tokens hmark _ ih =>
    rw [List.splitOn_cons_eq_if_modifyHead]
    by_cases hseparator : c = sectionMark
    · rw [hseparator, optionTexts_separator, ih]
      simp
    · rw [optionTexts_plain hmark hseparator, ih, modifyHead_map_flatten]
      simp [hseparator]
  | @sequence body cs tokens hbody _ ih =>
    rw [List.splitOn_cons_eq_if_modifyHead, if_neg (by simpa using sequence_ne_separator body),
      optionTexts_sequence hbody, ih, modifyHead_map_flatten]

/-- The tokens of an option are its tokens within the whole text. -/
theorem of_mem_splitOn (h : Lexed text tokens) (hpart : part ∈ tokens.splitOn [sectionMark]) :
    Lexed part.flatten part := by
  induction h generalizing part with
  | nil =>
    obtain rfl : part = [] := by simpa using hpart
    exact .nil
  | @plain c cs tokens hmark hrest ih =>
    by_cases hseparator : c = sectionMark
    · rw [hseparator, List.splitOn_cons_eq_if_modifyHead, if_pos (by simp)] at hpart
      rcases List.mem_cons.mp hpart with rfl | hlater
      · exact .nil
      · exact ih hlater
    · rcases mem_splitOn_cons (by simpa using hseparator) hpart with
        hlater | ⟨first, later, hsplit, rfl⟩
      · exact ih hlater
      · exact .plain hmark (ih (hsplit ▸ List.mem_cons_self))
  | @sequence body cs tokens hbody hrest ih =>
    rcases mem_splitOn_cons (sequence_ne_separator body) hpart with
      hlater | ⟨first, later, hsplit, rfl⟩
    · exact ih hlater
    · -- Behind the sequence the option goes on as the text does, or ends; a sequence sees no more.
      refine .sequence (hbody.of_head? ?_) (ih (hsplit ▸ List.mem_cons_self))
      rw [← hrest.flatten_eq]
      rcases eq_append_of_splitOn hsplit with rfl | ⟨more, rfl⟩
      · exact .inr rfl
      · rw [List.flatten_append]
        cases first.flatten <;> simp

theorem splitOptions_eq {raw : String} (h : Lexed raw.toList tokens) :
    splitOptions raw = (tokens.splitOn [sectionMark]).map fun part =>
      String.ofList (part.flatMap (resolved true)) := by
  have htexts : splitOptions raw =
      (optionTexts raw.toList).map fun cs => unescape true (String.ofList cs) := rfl
  rw [htexts, h.optionTexts_eq, List.map_map]
  refine List.map_congr_left fun part hpart => ?_
  rw [← String.toList_inj]
  simp [toList_unescape, (h.of_mem_splitOn hpart).unescapeAfter_eq true]

end CharLiteral.Lexed

namespace Formatter

/-- Joined by separators, the options are the whole text with its escapes resolved, and there is one
more of them than there are separators outside of the sequences of the text. -/
theorem splitOptions_join (raw : String) :
    sectionMark.toString.intercalate (splitOptions raw) = unescape true raw ∧
      ∃ tokens, (∀ other, CharLiteral.Lexed raw.toList other ↔ other = tokens) ∧
        (splitOptions raw).length = tokens.count [sectionMark] + 1 := by
  obtain ⟨tokens, hlexed⟩ := CharLiteral.exists_lexed_iff raw.toList
  have h : CharLiteral.Lexed raw.toList tokens := (hlexed tokens).mpr rfl
  refine ⟨?_, tokens, hlexed, ?_⟩
  · have hmark : CharLiteral.resolved true [sectionMark] = [sectionMark] := rfl
    have hjoin := flatMap_intercalate (CharLiteral.resolved true) [sectionMark]
      (tokens.splitOn [sectionMark])
    rw [List.intercalate_splitOn, hmark] at hjoin
    rw [← String.toList_inj, String.toList_intercalate, toList_unescape, h.unescapeAfter_eq, hjoin,
      h.splitOptions_eq, List.map_map]
    simp [Function.comp_def]
  · rw [h.splitOptions_eq, List.length_map, length_splitOn]

end Formatter

end Stencil
