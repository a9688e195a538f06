/-!
Texts cut by the bytes of their written form.
-/

namespace Scrollback.Text

/- The first bytes of a text and what comes after them, unless the cut lies inside a character. -/
def takeBytes? : Nat → List Char → Option (List Char × List Char)
  | 0, cs => some ([], cs)
  | _ + 1, [] => none
  | n + 1, c :: cs =>
    if c.utf8Size ≤ n + 1 then
      (takeBytes? (n + 1 - c.utf8Size) cs).map fun (taken, rest) => (c :: taken, rest)
    else none
termination_by _ cs => cs.length

end Scrollback.Text
