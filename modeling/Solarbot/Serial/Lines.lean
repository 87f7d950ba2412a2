import Solarbot.Power.Checksum

/-!
# Lines with a checksum

The devices on the serial ports send lines of one kind: `$`, a body with commas in it, `*`, the
sum of the body as two hexadecimal digits and a line feed. `CheckedLine` is such a line with a
checksum that is right. The loop of `VerifyChecksum` accepts it whatever is behind it in the
buffer, as long as the body is within the limit of the loop.
-/

namespace Solarbot.Serial

open CText Gps Power

structure CheckedLine where
  body : List Char
  star : '*' ∉ body
  hi : Char
  lo : Char
  hexadecimal : (hexDigit hi).isSome ∧ (hexDigit lo).isSome
  checksum : hexVal [hi, lo] = (bodySum body).toNat

namespace CheckedLine

variable (l : CheckedLine)

def text : List Char := '$' :: (l.body ++ ['*', l.hi, l.lo, '\n'])

theorem text_length : l.text.length = l.body.length + 5 := by
  rw [text, List.length_cons, List.length_append]
  rfl

/-- The line, with anything behind it. -/
theorem text_append (r : List Char) :
    l.text ++ r = '$' :: (l.body ++ '*' :: l.hi :: l.lo :: '\n' :: r) := by
  simp [text]

/-- What is left in the buffer behind a line does not count. -/
theorem accepts {limit : Nat} (h : l.body.length ≤ limit) (r : List Char) :
    Accepts limit (l.text ++ r) := by
  have hnone : hexDigit '\n' = none := by decide
  rw [Accepts, l.text_append, List.tail_cons, Sentence.checksumLoop_body l.star _ _ h]
  dsimp only
  rw [strtol16_pair l.hexadecimal.1 l.hexadecimal.2 hnone, l.checksum, Sentence.ofInt_toNat]
  rfl

/-- A line that is a good deal shorter than the buffer. -/
theorem verifyChecksum_text (h : l.text.length ≤ portRxBufferSize - 3) (r : List Char) :
    verifyChecksum (l.text ++ r) = 0 := by
  rw [verifyChecksum_iff]
  refine l.accepts ?_ r
  have hlength := l.text_length
  have hlimit : portRxBufferSize = 100 := rfl
  omega

end CheckedLine

/-- The texts of some numbers, each with a comma in front. -/
def commaFields (ns : List Numeral) : List Char := ns.flatMap fun n => ',' :: n.text

/-- A search goes from the front of a field to the front of the next. -/
theorem comma_commaFields (n m : Numeral) (ns : List Numeral) (r : List Char) :
    comma (n.text ++ (commaFields (m :: ns) ++ r)) = some (m.text ++ (commaFields ns ++ r)) := by
  show comma (n.text ++ (',' :: m.text ++ commaFields ns ++ r)) = _
  rw [List.cons_append, List.cons_append, comma_numeral, List.append_assoc]

/-- The first search, behind a name. -/
theorem comma_name {name : List Char} (hname : ',' ∉ name) (hzero : '\x00' ∉ name) (m : Numeral)
    (ns : List Numeral) (r : List Char) :
    comma (name ++ (commaFields (m :: ns) ++ r)) = some (m.text ++ (commaFields ns ++ r)) := by
  show comma (name ++ (',' :: m.text ++ commaFields ns ++ r)) = _
  rw [List.cons_append, List.cons_append, comma_field hname hzero, List.append_assoc]

/-- No digit follows a field. -/
theorem digitsEnd_commaFields (ns : List Numeral) {r : List Char} (hr : DigitsEnd r) :
    DigitsEnd (commaFields ns ++ r) := by
  cases ns with
  | nil => exact hr
  | cons n ns => exact digitsEnd_cons rfl _

end Solarbot.Serial
