/-! The blank characters: the controls from tab to carriage return, the four separators below the
space, next line, and the spaces of Unicode. Reading a pattern may ignore all of them. -/

namespace NumberingPlan.Text

def isBlank (c : Char) : Bool :=
  let n := c.toNat
  (0x09 ≤ n && n ≤ 0x0d) || (0x1c ≤ n && n ≤ 0x20) || n == 0x85 || n == 0xa0 || n == 0x1680
    || (0x2000 ≤ n && n ≤ 0x200a) || n == 0x2028 || n == 0x2029 || n == 0x202f || n == 0x205f
    || n == 0x3000

def dropBlanks (text : List Char) : List Char :=
  text.filter (fun c => !isBlank c)

theorem dropBlanks_no_blank {c : Char} {text : List Char} (member : c ∈ dropBlanks text) :
    isBlank c = false := by
  have kept := (List.mem_filter.1 member).2
  simpa using kept

end NumberingPlan.Text
