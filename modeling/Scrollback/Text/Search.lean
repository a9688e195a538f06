/-!
Texts within texts.
-/

namespace Scrollback.Text

def hasPart (part : List Char) : List Char → Bool
  | [] => part.isEmpty
  | c :: cs => part.isPrefixOf (c :: cs) || hasPart part cs

theorem hasPart_iff (part cs : List Char) : hasPart part cs = true ↔ part <:+: cs := by
  induction cs with
  | nil => simp [hasPart]
  | cons c cs ih => simp only [hasPart, Bool.or_eq_true, List.isPrefixOf_iff_prefix, ih,
      List.infix_cons_iff]

end Scrollback.Text
