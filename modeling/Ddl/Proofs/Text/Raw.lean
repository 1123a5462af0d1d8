import Ddl.Api.StandIn
import Ddl.Text.Utf8
import Mathlib.Data.List.TakeWhile

/-! A raw text can be written in UTF-8 when no half of a surrogate pair stands in it. -/

namespace Ddl

/-- No half of a pair stands in the raw text. -/
def RawText.IsWhole (raw : RawText) : Prop :=
  ∀ codePoint ∈ raw, codePoint.isHalf = false

namespace RawText

variable {first second separator : RawText} {pieces : List RawText}

/-- A text has characters alone. -/
theorem isWhole_ofText (text : Text) : IsWhole (ofText text) := by
  intro codePoint member
  obtain ⟨char, -, rfl⟩ := List.mem_map.mp member
  rfl

/-- Two raw texts have no halves together when each of them has none. -/
theorem isWhole_append : IsWhole (first ++ second) ↔ first.IsWhole ∧ second.IsWhole :=
  List.forall_mem_append

/-- Pieces without halves stay so with a separator between them. -/
theorem isWhole_intercalate (between : separator.IsWhole)
    (each : ∀ piece ∈ pieces, RawText.IsWhole piece) :
    IsWhole (separator.intercalate pieces) := by
  -- All pieces but the first one have the separator in front of them.
  induction pieces with
  | nil => exact nofun
  | cons piece later ih =>
    rw [List.forall_mem_cons] at each
    rcases later with _ | ⟨second, rest⟩
    · rw [List.intercalate_singleton]
      exact each.1
    · rw [List.intercalate_cons_cons, isWhole_append, isWhole_append]
      exact ⟨⟨each.1, between⟩, ih each.2⟩

/-- Just the raw texts without halves can be written. -/
theorem unwritable?_eq_none_iff {raw : RawText} :
    Utf8.unwritable? raw = none ↔ raw.IsWhole := by
  induction raw with
  | nil => exact iff_of_true rfl nofun
  | cons codePoint rest ih =>
    cases codePoint with
    | whole char =>
      -- A character in front moves what is found, and does not change whether it is found.
      rw [IsWhole, List.forall_mem_cons, ← IsWhole, ← ih, Utf8.unwritable?, Utf8.unwritable?]
      simp only [List.dropWhile_cons, CodePoint.isHalf, Bool.not_false, if_true, true_and]
      split <;> simp_all
    | half place =>
      refine iff_of_false nofun fun whole => ?_
      exact Bool.noConfusion (whole _ List.mem_cons_self)

end RawText

namespace StandIn

/-- A text has nothing for which a character would stand in. -/
theorem fill_ofText (row : Nat) (text : Text) : fill row (.ofText text) = text := by
  rw [fill, RawText.ofText, List.map_map]
  exact List.map_id' text

/-- Texts are read as they are, with whatever stand-ins. -/
theorem map_fill_ofText (row : Nat) (texts : List Text) :
    (texts.map RawText.ofText).map (fill row) = texts := by
  rw [List.map_map]
  exact (List.map_congr_left fun text _ => fill_ofText row text).trans (List.map_id' _)

/-- Two readings that show the same show no half of a pair for which a character stood in. -/
theorem merge_self (raw : RawText) : merge raw raw = raw := by
  -- At each place the two readings show the same code point.
  induction raw with
  | nil => rfl
  | cons codePoint rest ih =>
    have same : StandIn.codePoint codePoint codePoint = codePoint := by
      cases codePoint <;> simp [StandIn.codePoint]
    rw [merge, List.zipWith_cons_cons, same]
    exact congrArg (codePoint :: ·) ih

end StandIn

end Ddl
