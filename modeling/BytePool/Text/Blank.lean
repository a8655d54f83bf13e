/-!
# White space

The characters of the Unicode property White_Space, and text freed of them at both ends.
-/
namespace BytePool.Text

/-- The Unicode property White_Space. -/
def blanks : List Char :=
  ['\t', '\n', '\x0b', '\x0c', '\r', ' ', '\u0085', '\u00a0', '\u1680', '\u2000', '\u2001',
    '\u2002', '\u2003', '\u2004', '\u2005', '\u2006', '\u2007', '\u2008', '\u2009', '\u200a',
    '\u2028', '\u2029', '\u202f', '\u205f', '\u3000']

def isBlank (c : Char) : Bool := blanks.contains c

example : blanks.length = 25 ∧ blanks.Nodup := by decide

/-- The text between the first and the last character that is not blank. -/
def trim (cs : List Char) : List Char :=
  ((cs.dropWhile isBlank).reverse.dropWhile isBlank).reverse

theorem trim_of_all {cs : List Char} (h : cs.all isBlank) : trim cs = [] := by
  have hd : cs.dropWhile isBlank = [] := by
    induction cs with
    | nil => rfl
    | cons c cs ih =>
      rw [List.all_cons, Bool.and_eq_true] at h
      rw [List.dropWhile_cons_of_pos h.1, ih h.2]
  simp [trim, hd]

end BytePool.Text
