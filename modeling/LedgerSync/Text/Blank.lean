/-!
# Blank space

Which characters count as blank, and trimming by them. A text *has content* when
something is left after trimming; `hasContent_eq_false_iff` says that the two
agree. An external id or an account number without content counts as absent as a
rule.
-/

namespace LedgerSync.Text

/-- The blank characters: the ASCII controls from tab to carriage return and
from file separator to unit separator, the space, the next-line control, and
every other separator of the Unicode categories for spaces, lines and
paragraphs. -/
def isBlank (c : Char) : Bool :=
  let n := c.toNat
  (0x09 ≤ n && n ≤ 0x0D) || (0x1C ≤ n && n ≤ 0x20) || n == 0x85 ||
    n == 0xA0 || n == 0x1680 || (0x2000 ≤ n && n ≤ 0x200A) || n == 0x2028 ||
    n == 0x2029 || n == 0x202F || n == 0x205F || n == 0x3000

/-- Drops the characters that satisfy `p` from both ends. -/
def trimBy (p : Char → Bool) (cs : List Char) : List Char :=
  ((cs.dropWhile p).reverse.dropWhile p).reverse

/-- Drops the blank characters from both ends. -/
def trim (s : String) : String := String.ofList (trimBy isBlank s.toList)

/-- Whether any character is not blank. -/
def hasContent (s : String) : Bool := s.toList.any fun c => !isBlank c

theorem trimBy_eq_nil_iff {p : Char → Bool} {cs : List Char} :
    trimBy p cs = [] ↔ ∀ c ∈ cs, p c = true := by
  unfold trimBy
  rw [List.reverse_eq_nil_iff]
  constructor
  · intro h c hc
    have hrev : ∀ d ∈ (cs.dropWhile p).reverse, p d = true := by
      intro d hd
      rw [← List.takeWhile_append_dropWhile (p := p)
        (l := (cs.dropWhile p).reverse), h, List.append_nil] at hd
      exact List.all_eq_true.1 List.all_takeWhile d hd
    rw [← List.takeWhile_append_dropWhile (p := p) (l := cs)] at hc
    rcases List.mem_append.1 hc with hc | hc
    · exact List.all_eq_true.1 List.all_takeWhile c hc
    · exact hrev c (List.mem_reverse.2 hc)
  · intro h
    have hdrop : cs.dropWhile p = [] := by
      induction cs with
      | nil => rfl
      | cons c cs ih =>
        rw [List.dropWhile_cons_of_pos (h c List.mem_cons_self)]
        exact ih fun d hd => h d (List.mem_cons_of_mem c hd)
    simp [hdrop]

/-- A text without content is one that trimming empties. -/
theorem hasContent_eq_false_iff {s : String} :
    hasContent s = false ↔ trim s = "" := by
  unfold hasContent trim
  rw [List.any_eq_false]
  constructor
  · intro h
    have : trimBy isBlank s.toList = [] :=
      trimBy_eq_nil_iff.2 fun c hc => by simpa using h c hc
    rw [this]
  · intro h c hc
    have hnil : trimBy isBlank s.toList = [] := by
      have := congrArg String.toList h
      simpa using this
    simpa using trimBy_eq_nil_iff.1 hnil c hc

end LedgerSync.Text
