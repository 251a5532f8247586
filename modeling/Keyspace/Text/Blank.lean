import Keyspace.Text.Basic

/-!
Blank code points, and the trimming of them from both ends of a text.
-/

namespace Keyspace.Text

/-- The code points that trimming removes: the ASCII controls that separate, the space, and the
spaces and separators of the wider code space. -/
def isBlank (c : CodePoint) : Bool :=
  (0x09 ≤ c && c ≤ 0x0D) || (0x1C ≤ c && c ≤ 0x20) || c == 0x85 || c == 0xA0 || c == 0x1680 ||
    (0x2000 ≤ c && c ≤ 0x200A) || c == 0x2028 || c == 0x2029 || c == 0x202F || c == 0x205F ||
    c == 0x3000

/-- The text without the code points of a class at its start. -/
def trimStart (skip : CodePoint → Bool) (t : Text) : Text := t.dropWhile skip

/-- The text without the code points of a class at its end. -/
def trimEnd (skip : CodePoint → Bool) (t : Text) : Text := (t.reverse.dropWhile skip).reverse

/-- The text without blanks at its two ends; blanks inside stay. -/
def strip (t : Text) : Text := trimEnd isBlank (trimStart isBlank t)

theorem trimStart_eq_self {skip : CodePoint → Bool} {t : Text} (h : ∀ c ∈ t, skip c = false) :
    trimStart skip t = t := by
  cases t with
  | nil => rfl
  | cons c t => rw [trimStart, List.dropWhile_cons, h c (by simp)]; rfl

theorem trimEnd_eq_self {skip : CodePoint → Bool} {t : Text} (h : ∀ c ∈ t, skip c = false) :
    trimEnd skip t = t := by
  have hrev : trimStart skip t.reverse = t.reverse :=
    trimStart_eq_self fun c hc => h c (List.mem_reverse.1 hc)
  rw [trimStart] at hrev
  rw [trimEnd, hrev, List.reverse_reverse]

/-- A text without blanks is trimmed to itself. -/
theorem strip_eq_self {t : Text} (h : ∀ c ∈ t, isBlank c = false) : strip t = t := by
  rw [strip, trimStart_eq_self h, trimEnd_eq_self h]

end Keyspace.Text
