import Keyspace.Proofs.Pattern.Positions
import Keyspace.Proofs.Text.Encodable

/-!
What the cause of a fault tells.

Of what is wrong with a pattern the cause holds as much as its message shows: the ends of a range,
and the last comes before the first; a sign that stands where an atom must stand, and it is one of
the quantifier signs; bounds, and the upper one is below the lower one (`Cause.Genuine`). All that
is ASCII but the ends of a range, so only a reversed range can have a message without a UTF-8 form
(`encodable_message_iff`).
-/

namespace Keyspace.Pattern

/-- What a cause says is the case. -/
def Cause.Genuine : Cause → Prop
  | .reversedRange first last => last < first
  | .danglingQuantifier sign => isQuantifierSign sign
  | .reversedBounds lower upper => upper < lower
  | _ => True

theorem Cause.SeenAt.genuine {p : Text} {q : Nat} {cause : Cause} (h : cause.SeenAt p q) :
    cause.Genuine := by
  cases cause with
  | reversedRange first last =>
    obtain ⟨_, _, _, _, hlt⟩ := h
    exact hlt
  | danglingQuantifier sign => exact h.2
  | reversedBounds lower upper => exact h.2
  | _ => trivial

theorem genuine_of_parse {t : Text} {f : Fault} (h : parse t = .error f) : f.cause.Genuine :=
  (seenAt_of_parse h).genuine

/-! ### Messages -/

/-- The code points without a UTF-8 form that a cause shows: ends of a reversed range. -/
def Cause.Shows (cause : Cause) (c : CodePoint) : Prop :=
  ∃ first last, cause = .reversedRange first last ∧ (c = first ∨ c = last)

/-- A message has a UTF-8 form unless it is about a reversed range with an end that has none. -/
theorem encodable_message_iff {cause : Cause} (h : cause.Genuine) :
    Text.encodable cause.message ↔ ∀ c, cause.Shows c → Text.isScalar c := by
  cases cause with
  | danglingQuantifier sign =>
    have hsign : Text.isScalar sign := by
      simp only [Cause.Genuine, isQuantifierSign, Bool.or_eq_true, decide_eq_true_eq] at h
      rcases h with (((rfl | rfl) | rfl) | rfl) | rfl <;> rfl
    simp [Cause.message, Cause.Shows, hsign]
  | _ => simp [Cause.message, Cause.Shows]

/-- The whole message of a fault has a UTF-8 form if that of its cause has one. -/
theorem encodable_report (f : Fault) :
    Text.encodable f.report.message = Text.encodable f.cause.message := by
  simp [Fault.report, ErrorReport.located]

end Keyspace.Pattern
