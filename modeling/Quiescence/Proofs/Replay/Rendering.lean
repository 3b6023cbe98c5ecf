import Mathlib.Data.List.Forall2
import Quiescence.Proofs.Document.Coding
import Quiescence.Summary

/-! # Summaries as JSON

The JSON of a summary is one document, whatever the names in it: it decodes to the fields of the
summary and to its rows in their order, and without its white space it is the compact text.
-/

namespace Quiescence

theorem Json.Value.itemDocs_eq_map (items : List Json.Value) :
    itemDocs items = items.map toDoc := by
  induction items with
  | nil => rfl
  | cons item items ih => rw [itemDocs, ih, List.map_cons]

namespace Summary

open Json (strip)

theorem toDoc_toJson (time : Moment → String) (s : Summary) : (s.toJson time).toDoc =
    .map (Doc.named [("events", Json.numeral s.events), ("applied", Json.numeral s.applied),
      ("rejected", Json.numeral s.rejected), ("quiescent", .bool s.quiescent),
      ("timed_out", .bool s.timedOut), ("stalled", .bool s.stalled),
      ("force_closed", Json.numeral s.forceClosed),
      ("remaining", .seq (s.remaining.map fun row => (row.toJson time).toDoc))]) := by
  simp only [toJson, Json.Value.toDoc, Json.Value.memberDocs, Json.Value.itemDocs_eq_map,
    List.map_map]
  rfl

/-- What a text says that renders a summary as JSON. -/
structure RenderedBy (s : Summary) (text : String) : Prop where
  /-- It is one JSON document, spelled as the grammar has it. -/
  wellFormed : (s.toJson Moment.toRfc3339).SpelledBy text
  /-- The reader meets the tokens of the summary and no others. So every name is one token, which
  ends at its own quote and nowhere before. -/
  tokens : Json.tokens text = (s.toJson Moment.toRfc3339).tokens
  /-- It is read as the eight fields, and every row is decoded in its place. -/
  decoded : ∃ rows, Json.read text = ⟨.map (Doc.named [("events", .int s.events),
      ("applied", .int s.applied), ("rejected", .int s.rejected), ("quiescent", .bool s.quiescent),
      ("timed_out", .bool s.timedOut), ("stalled", .bool s.stalled),
      ("force_closed", .int s.forceClosed), ("remaining", .seq rows)]), true⟩ ∧
    List.Forall₂ (fun doc row => Row.decoder .json doc = .ok row) rows s.remaining
  /-- Without insignificant white space it is the compact text. -/
  stripped : String.ofList (strip .outside text.toList) = (s.toJson Moment.toRfc3339).compact

/-- The document is read as the eight fields, and every row is decoded in its place. -/
theorem decoded_pretty (s : Summary)
    (counts : ∀ n ∈ [s.events, s.applied, s.rejected, s.forceClosed], n < 2 ^ 64) :
    ∃ rows, Json.read (s.toJson Moment.toRfc3339).pretty =
      ⟨.map (Doc.named [("events", .int s.events), ("applied", .int s.applied),
        ("rejected", .int s.rejected), ("quiescent", .bool s.quiescent),
        ("timed_out", .bool s.timedOut), ("stalled", .bool s.stalled),
        ("force_closed", .int s.forceClosed), ("remaining", .seq rows)]), true⟩ ∧
      List.Forall₂ (fun doc row => Row.decoder .json doc = .ok row) rows s.remaining := by
  have exact (n : Nat) (mem : n ∈ [s.events, s.applied, s.rejected, s.forceClosed]) :
      Json.numeral n = .int n := Json.numeral_of_exact (Nat.le_sub_one_of_lt (counts n mem))
  refine ⟨s.remaining.map fun row => (row.toJson Moment.toRfc3339).toDoc, ?_, ?_⟩
  · rw [(Json.Value.spelledBy_pretty _).read, toDoc_toJson, exact s.events (by simp),
      exact s.applied (by simp), exact s.rejected (by simp), exact s.forceClosed (by simp)]
  · exact List.forall₂_map_left_iff.mpr
      (List.forall₂_same.mpr fun row _ => row.decode_toRfc3339 .json)

/-- A summary is rendered as JSON without loss, whatever the names of its rows. -/
theorem renderedBy_pretty (s : Summary)
    (counts : ∀ n ∈ [s.events, s.applied, s.rejected, s.forceClosed], n < 2 ^ 64) :
    s.RenderedBy (s.toJson Moment.toRfc3339).pretty where
  wellFormed := Json.Value.spelledBy_pretty _
  tokens := Json.Written.tokens (Json.Value.spelledBy_pretty _)
  decoded := s.decoded_pretty counts
  stripped := Json.Value.strip_pretty _

/-- A summary whose row is named like the end of its own text and was opened in a leap second. -/
theorem renderedBy_pretty_of_bracket_name :
    let row : Row :=
      ⟨⟨"\"", "\"\x7d]\x7d"⟩, { second := 1483228799, nano := 1500000000 }, none⟩
    let s : Summary := ⟨2, 1, 1, false, false, true, 0, [row]⟩
    row.openedAt.toRfc3339 = "2016-12-31T23:59:60.500Z" ∧
      s.RenderedBy (s.toJson Moment.toRfc3339).pretty :=
  ⟨by decide +kernel, renderedBy_pretty _ (by decide)⟩

end Summary

end Quiescence
